import EventHub.Auth.Credential
import EventHub.Proofs.Text.Ascii
import EventHub.Proofs.Text.Split
import EventHub.Proofs.Text.Trim

/-!
Which header values show a token, and which token. Both grammars are read exactly: a value is
recognised if and only if it has their form, however it is padded and in whatever case the marker
is.
-/

namespace EventHub.Credential

/-- The marker in whatever letter case. -/
def SpellsMarker (text : List Char) : Prop :=
  text.map Char.toLower = marker

instance (text : List Char) : Decidable (SpellsMarker text) :=
  inferInstanceAs (Decidable (text.map Char.toLower = marker))

/-- An `Authorization` value for a credential. The blanks at its ends apart, it is the marker, a
space, and the token, which may have more blanks around it. -/
inductive Authorizes (value : String) : Credential → Prop
  | intro {scheme rest : List Char} (parts : Text.trim value.toList = scheme ++ ' ' :: rest)
      (solid : ' ' ∉ scheme) (marks : SpellsMarker scheme) (shown : ¬Text.Blank rest) :
      Authorizes value ⟨String.ofList (Text.trim rest)⟩

/-- A list of sub-protocols that offers a credential, in the entry after the first marker. -/
inductive Offers (value : String) : Credential → Prop
  | intro {before after : List (List Char)} {mark entry : List Char}
      (entries : value.toList = [','].intercalate (before ++ mark :: entry :: after))
      (solid : ∀ part ∈ before ++ mark :: entry :: after, ',' ∉ part)
      (first : ∀ part ∈ before, ¬SpellsMarker (Text.trim part))
      (marks : SpellsMarker (Text.trim mark)) (shown : ¬Text.Blank entry) :
      Offers value ⟨String.ofList (Text.trim entry)⟩

/-- There is a token, and no blank at either end of it. -/
structure Tidy (token : String) : Prop where
  nonempty : token ≠ ""
  trimmed : Text.trim token.toList = token.toList

variable {text mark scheme shown : List Char} {value token : String} {credential : Credential}
  {entries before after : List (List Char)}

/-! The marker. -/

theorem isMarker_iff : isMarker text = true ↔ SpellsMarker text := by
  have small : Text.lower marker = marker := by decide
  rw [isMarker, Text.equalIgnoringCase_iff, small, Text.lower_eq_map_toLower, SpellsMarker]

theorem SpellsMarker.letter (marks : SpellsMarker text) {char : Char} (member : char ∈ text) :
    char.toLower ∈ marker :=
  marks ▸ List.mem_map_of_mem member

theorem SpellsMarker.not_isBlank (marks : SpellsMarker text) {char : Char}
    (member : char ∈ text) : Text.isBlank char = false := by
  have letter := marks.letter member
  by_cases ascii : char.toNat < 0x80
  · refine Text.forall_ascii
      (motive := fun char => char.toLower ∈ marker → Text.isBlank char = false) ?_ ascii letter
    decide +kernel
  · have letters : marker.all (·.toNat < 0x80) = true := by decide
    rw [Text.toLower_of_not_ascii ascii] at letter
    exact absurd (of_decide_eq_true (List.all_eq_true.1 letters char letter)) ascii

theorem SpellsMarker.ne_nil (marks : SpellsMarker text) : text ≠ [] := by
  rintro rfl
  cases marks

theorem SpellsMarker.noSpace (marks : SpellsMarker text) : ' ' ∉ text := by
  intro member
  cases marks.not_isBlank member

theorem SpellsMarker.noComma (marks : SpellsMarker text) : ',' ∉ text := by
  intro member
  exact absurd (marks.letter member) (by decide)

theorem SpellsMarker.trim_eq (marks : SpellsMarker text) : Text.trim text = text :=
  Text.trim_eq_self_of_visible fun _ => marks.not_isBlank

/-! What is read. -/

theorem ofChars?_eq_some_iff : ofChars? text = some credential ↔
    text ≠ [] ∧ credential = ⟨String.ofList text⟩ := by
  rw [ofChars?]
  split
  · rename_i nothing
    exact ⟨nofun, fun found => absurd nothing found.1⟩
  · rename_i something
    rw [Option.some.injEq, eq_comm]
    exact ⟨fun same => ⟨something, same⟩, And.right⟩

theorem ofAuthorization_eq_some_iff :
    ofAuthorization value = some credential ↔ Authorizes value credential := by
  rw [ofAuthorization, ofAuthorizationChars]
  constructor
  · intro read
    split at read
    · cases read
    · rename_i scheme rest parts
      obtain ⟨parts, solid⟩ := Text.splitFirst_eq_some.1 parts
      split at read
      · rename_i marks
        obtain ⟨something, rfl⟩ := ofChars?_eq_some_iff.1 read
        exact .intro parts solid (isMarker_iff.1 marks) (mt Text.trim_eq_nil.2 something)
      · cases read
  · rintro ⟨parts, solid, marks, shown⟩
    rw [Text.splitFirst_eq_some.2 ⟨parts, solid⟩]
    simp only [isMarker_iff.2 marks, if_true]
    exact ofChars?_eq_some_iff.2 ⟨mt Text.trim_eq_nil.1 shown, rfl⟩

theorem afterMarker_eq_some_iff : afterMarker entries = some shown ↔
    ∃ before mark after, entries = before ++ mark :: shown :: after ∧
      (∀ entry ∈ before, ¬SpellsMarker entry) ∧ SpellsMarker mark := by
  induction entries with
  | nil => simp [afterMarker]
  | cons entry rest ih =>
      rw [afterMarker]
      by_cases marks : SpellsMarker entry
      · rw [if_pos (isMarker_iff.2 marks), List.head?_eq_some_iff]
        constructor
        · rintro ⟨after, rfl⟩
          exact ⟨[], entry, after, rfl, nofun, marks⟩
        · rintro ⟨before, mark, after, split, first, -⟩
          cases before with
          | nil =>
              cases split
              exact ⟨after, rfl⟩
          | cons other before =>
              cases split
              exact absurd marks (first entry List.mem_cons_self)
      · rw [if_neg (mt isMarker_iff.1 marks), ih]
        constructor
        · rintro ⟨before, mark, after, rfl, first, marks'⟩
          exact ⟨entry :: before, mark, after, rfl, List.forall_mem_cons.2 ⟨marks, first⟩, marks'⟩
        · rintro ⟨before, mark, after, split, first, marks'⟩
          cases before with
          | nil =>
              cases split
              exact absurd marks' marks
          | cons other before =>
              cases split
              exact ⟨before, mark, after, rfl, (List.forall_mem_cons.1 first).2, marks'⟩

theorem ofSubprotocols_eq_some_iff :
    ofSubprotocols value = some credential ↔ Offers value credential := by
  rw [ofSubprotocols, ofSubprotocolChars, Option.bind_eq_some_iff]
  constructor
  · rintro ⟨token, found, read⟩
    obtain ⟨something, rfl⟩ := ofChars?_eq_some_iff.1 read
    obtain ⟨_, _, _, trimmed, first, marks⟩ := afterMarker_eq_some_iff.1 found
    -- What stands among the trimmed entries stands among the entries, trimmed.
    obtain ⟨before, rest, entries, rfl, trimmedRest⟩ := List.map_eq_append_iff.1 trimmed
    obtain ⟨mark, others, rfl, rfl, trimmedOthers⟩ := List.map_eq_cons_iff.1 trimmedRest
    obtain ⟨entry, after, rfl, rfl, -⟩ := List.map_eq_cons_iff.1 trimmedOthers
    have joined := Text.intercalate_splitAll ',' value.toList
    have solid := fun part => @Text.not_mem_of_mem_splitAll ',' value.toList part
    rw [entries] at joined solid
    exact .intro joined.symm solid (fun part member => first _ (List.mem_map_of_mem member)) marks
      (mt Text.trim_eq_nil.2 something)
  · rintro ⟨entries, solid, first, marks, shown⟩
    refine ⟨_, ?_, ofChars?_eq_some_iff.2 ⟨mt Text.trim_eq_nil.1 shown, rfl⟩⟩
    rw [entries, Text.splitAll_intercalate solid (by simp), afterMarker_eq_some_iff,
      List.map_append, List.map_cons, List.map_cons]
    exact ⟨_, _, _, rfl, List.forall_mem_map.2 first, marks⟩

theorem extract_eq (authorization subprotocols : Option String) :
    extract authorization subprotocols =
      (authorization.bind ofAuthorization).or (subprotocols.bind ofSubprotocols) := by
  rw [extract]
  cases authorization.bind ofAuthorization <;> rfl

/-! Extracted tokens. -/

theorem tidy_trim (shown : ¬Text.Blank text) : Tidy (String.ofList (Text.trim text)) where
  nonempty := by
    rw [Ne, String.ofList_eq_empty_iff]
    exact mt Text.trim_eq_nil.1 shown
  trimmed := by rw [String.toList_ofList, Text.trim_trim]

theorem Tidy.trim_of_padded (tidy : Tidy token) (shown : Text.Padded text token.toList) :
    Text.trim text = token.toList := by
  rw [Text.trim_of_padded shown, tidy.trimmed]

theorem Tidy.not_blank_of_padded (tidy : Tidy token) (shown : Text.Padded text token.toList) :
    ¬Text.Blank text := by
  rw [← Text.trim_eq_nil, tidy.trim_of_padded shown, String.toList_eq_nil_iff]
  exact tidy.nonempty

theorem Authorizes.tidy (authorizes : Authorizes value credential) : Tidy credential.token := by
  obtain ⟨-, -, -, shown⟩ := authorizes
  exact tidy_trim shown

theorem Offers.tidy (offers : Offers value credential) :
    Tidy credential.token ∧ ',' ∉ credential.token.toList := by
  obtain @⟨before, after, mark, entry, -, solid, -, -, shown⟩ := offers
  refine ⟨tidy_trim shown, fun member => solid entry ?_ (Text.mem_of_mem_trim ?_)⟩
  · simp
  · rwa [String.toList_ofList] at member

theorem tidy_of_extract {authorization subprotocols : Option String}
    (extracted : extract authorization subprotocols = some credential) : Tidy credential.token := by
  rw [extract_eq, Option.or_eq_some_iff] at extracted
  rcases extracted with shown | ⟨-, offered⟩
  · obtain ⟨value, -, read⟩ := Option.bind_eq_some_iff.1 shown
    exact (ofAuthorization_eq_some_iff.1 read).tidy
  · obtain ⟨value, -, read⟩ := Option.bind_eq_some_iff.1 offered
    exact (ofSubprotocols_eq_some_iff.1 read).tidy.1

/-! Tokens that are shown. -/

theorem authorizes_of_padded (tidy : Tidy token) (marks : SpellsMarker scheme)
    (shown : Text.Padded text token.toList)
    (padded : Text.Padded value.toList (scheme ++ ' ' :: text)) : Authorizes value ⟨token⟩ := by
  have visible : Text.trimEnd text ≠ [] :=
    mt Text.trimEnd_eq_nil.1 (tidy.not_blank_of_padded shown)
  have start : Text.trimStart (scheme ++ ' ' :: text) = scheme ++ ' ' :: text := by
    refine Text.trimStart_eq_self_of_head fun char head => ?_
    rw [List.head?_append_of_ne_nil _ marks.ne_nil] at head
    exact marks.not_isBlank (List.mem_of_mem_head? head)
  have parts : Text.trim value.toList = scheme ++ ' ' :: Text.trimEnd text := by
    rw [Text.trim_of_padded padded, Text.trim, start, List.append_cons, Text.trimEnd_append,
      if_neg visible, ← List.append_cons]
  have token_eq : Text.trim (Text.trimEnd text) = token.toList := by
    rw [Text.trim_trimEnd, tidy.trim_of_padded shown]
  have authorizes := Authorizes.intro parts marks.noSpace marks fun blank =>
    visible (by rw [← Text.trimEnd_trimEnd, Text.trimEnd_eq_nil.2 blank])
  rwa [token_eq, String.ofList_toList] at authorizes

theorem offers_of_padded (tidy : Tidy token) (noComma : ',' ∉ token.toList)
    (marks : SpellsMarker scheme) (padded : Text.Padded mark scheme)
    (shown : Text.Padded text token.toList)
    (first : ∀ part ∈ before, ',' ∉ part ∧ ¬SpellsMarker (Text.trim part))
    (later : ∀ part ∈ after, ',' ∉ part)
    (entries : value.toList = [','].intercalate (before ++ mark :: text :: after)) :
    Offers value ⟨token⟩ := by
  have spelled : SpellsMarker (Text.trim mark) := by
    rwa [Text.trim_of_padded padded, marks.trim_eq]
  have solid : ∀ part ∈ before ++ mark :: text :: after, ',' ∉ part := by
    rw [List.forall_mem_append, List.forall_mem_cons, List.forall_mem_cons]
    exact ⟨fun part member => (first part member).1,
      Text.not_mem_of_padded padded rfl marks.noComma,
      Text.not_mem_of_padded shown rfl noComma, later⟩
  have offers := Offers.intro entries solid (fun part member => (first part member).2) spelled
    (tidy.not_blank_of_padded shown)
  rwa [tidy.trim_of_padded shown, String.ofList_toList] at offers

/-- Both header grammars are read exactly. What is extracted is tidy, every tidy token can be shown
in either way, however it is padded, and the sub-protocols count only where the `Authorization`
value shows nothing. -/
theorem recognised_exactly :
    (∀ value credential, ofAuthorization value = some credential ↔ Authorizes value credential) ∧
    (∀ value credential, ofSubprotocols value = some credential ↔ Offers value credential) ∧
    (∀ authorization subprotocols credential,
      extract authorization subprotocols = some credential → Tidy credential.token) ∧
    (∀ value credential, ofSubprotocols value = some credential →
      ',' ∉ credential.token.toList) ∧
    (∀ token, Tidy token → ∀ scheme, SpellsMarker scheme → ∀ shown value,
      Text.Padded shown token.toList → Text.Padded value.toList (scheme ++ ' ' :: shown) →
        ofAuthorization value = some ⟨token⟩) ∧
    (∀ token, Tidy token → ',' ∉ token.toList → ∀ scheme, SpellsMarker scheme →
      ∀ before mark shown after value,
        (∀ part ∈ before, ',' ∉ part ∧ ¬SpellsMarker (Text.trim part)) →
        Text.Padded mark scheme → Text.Padded shown token.toList → (∀ part ∈ after, ',' ∉ part) →
        value.toList = [','].intercalate (before ++ mark :: shown :: after) →
          ofSubprotocols value = some ⟨token⟩) ∧
    ∀ authorization : Option String,
      (authorization.bind ofAuthorization = none ↔
        ∀ subprotocols, extract authorization subprotocols = subprotocols.bind ofSubprotocols) ∧
      ∀ credential, authorization.bind ofAuthorization = some credential →
        ∀ subprotocols, extract authorization subprotocols = some credential := by
  refine ⟨fun _ _ => ofAuthorization_eq_some_iff, fun _ _ => ofSubprotocols_eq_some_iff,
    fun _ _ _ => tidy_of_extract, fun _ _ read => (ofSubprotocols_eq_some_iff.1 read).tidy.2,
    ?_, ?_, fun authorization => ⟨⟨?_, ?_⟩, ?_⟩⟩
  · intro token tidy scheme marks shown value padded framed
    exact ofAuthorization_eq_some_iff.2 (authorizes_of_padded tidy marks padded framed)
  · intro token tidy noComma scheme marks before mark shown after value first framed padded later
      entries
    exact ofSubprotocols_eq_some_iff.2
      (offers_of_padded tidy noComma marks framed padded first later entries)
  · intro silent subprotocols
    rw [extract_eq, silent, Option.none_or]
  · intro follows
    have alone := follows none
    rw [extract_eq] at alone
    simpa using alone
  · intro credential shown subprotocols
    rw [extract_eq, shown, Option.some_or]

/-- Mixed case, more blanks than needed, and sub-protocols around the marker and the token. -/
theorem recognised_exactly_padded :
    (Tidy "tok-1" ∧ SpellsMarker "BeArer".toList ∧ ',' ∉ "tok-1".toList) ∧
      ofAuthorization "\tBeArer   tok-1 " = some ⟨"tok-1"⟩ ∧
      ofSubprotocols "chat.v1, BeArer ,  tok-1,chat.v2" = some ⟨"tok-1"⟩ ∧
      extract (some "Basic tok-2") (some "chat.v1, BeArer ,  tok-1,chat.v2") = some ⟨"tok-1"⟩ := by
  have tidy : Tidy "tok-1" := ⟨by decide, by decide⟩
  have marks : SpellsMarker "BeArer".toList := by decide
  have noComma : ',' ∉ "tok-1".toList := by decide
  have ⟨_, _, _, _, authorized, offered, sources⟩ := recognised_exactly
  have shown : Text.Padded "  tok-1".toList "tok-1".toList :=
    ⟨[' ', ' '], [], by decide, by decide, by decide⟩
  have offers : ofSubprotocols "chat.v1, BeArer ,  tok-1,chat.v2" = some ⟨"tok-1"⟩ :=
    offered "tok-1" tidy noComma "BeArer".toList marks ["chat.v1".toList] " BeArer ".toList
      "  tok-1".toList ["chat.v2".toList] _ (by decide)
      ⟨[' '], [' '], by decide, by decide, by decide⟩ shown (by decide) (by decide)
  refine ⟨⟨tidy, marks, noComma⟩, ?_, offers, ?_⟩
  · exact authorized "tok-1" tidy "BeArer".toList marks "  tok-1".toList _ shown
      ⟨['\t'], [' '], by decide, by decide, by decide⟩
  · have silent : (some "Basic tok-2").bind ofAuthorization = none := by decide
    exact ((sources (some "Basic tok-2")).1.1 silent _).trans offers

end EventHub.Credential
