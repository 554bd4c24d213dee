import Mathlib.Data.List.TakeWhile
import EventHub.Http.Uri

/-!
What becomes of a URI when a parameter is put at its end. It is the query, or goes on with the
query that is there, or is lost in a fragment.
-/

namespace EventHub.Http.Uri

variable {path more scheme text : List Char} {uri : Uri}

/-- A query that goes on after another question mark. -/
def prolong (more : List Char) : Option String → String
  | none => String.ofList more
  | some query => query ++ "?" ++ String.ofList more

/-- Neither a query nor a fragment starts here. -/
def isBeforeQuery (char : Char) : Bool :=
  char != '?' && char != '#'

def IsPath (path : List Char) : Prop :=
  ∀ char ∈ path, isBeforeQuery char = true

/-- A path is followed by nothing, a query or a fragment. -/
inductive Parts : List Char → Prop where
  | path {path : List Char} (isPath : IsPath path) : Parts path
  | query {path : List Char} (isPath : IsPath path) (query : List Char) :
      Parts (path ++ '?' :: query)
  | fragment {path : List Char} (isPath : IsPath path) (fragment : List Char) :
      Parts (path ++ '#' :: fragment)

theorem parts (text : List Char) : Parts text := by
  have empty : IsPath [] := fun _ absent => nomatch absent
  induction text with
  | nil => exact .path empty
  | cons char rest ih =>
      by_cases query : char = '?'
      · subst query
        exact .query empty rest
      by_cases fragment : char = '#'
      · subst fragment
        exact .fragment empty rest
      have grows {path : List Char} (isPath : IsPath path) : IsPath (char :: path) :=
        List.forall_mem_cons.2 ⟨by simp [isBeforeQuery, query, fragment], isPath⟩
      cases ih with
      | path isPath => exact .path (grows isPath)
      | query isPath after => exact .query (grows isPath) after
      | fragment isPath after => exact .fragment (grows isPath) after

theorem IsPath.not_mem (isPath : IsPath path) : '?' ∉ path ∧ '#' ∉ path :=
  ⟨fun member => absurd (isPath _ member) (by decide),
    fun member => absurd (isPath _ member) (by decide)⟩

/-- A character where the cut would be made anyhow takes nothing away. -/
theorem takeWhile_append_cons {p : Char → Bool} {stop : Char} (stops : p stop = false)
    (before after : List Char) :
    (before ++ stop :: after).takeWhile p = before.takeWhile p ∧
      (before ++ stop :: after).dropWhile p = before.dropWhile p ++ stop :: after := by
  induction before with
  | nil => simp [stops]
  | cons char before ih =>
      rw [List.cons_append, List.takeWhile_cons, List.dropWhile_cons, List.takeWhile_cons,
        List.dropWhile_cons, ih.1, ih.2]
      cases p char <;> simp

theorem takeWhile_of_not_mem (solid : '#' ∉ text) : text.takeWhile (· != '#') = text := by
  rw [List.takeWhile_eq_self_iff]
  rintro char member
  exact bne_iff_ne.2 fun same => solid (same ▸ member)

theorem takeWhile_append_of_mem (cut : '#' ∈ text) (more : List Char) :
    (text ++ more).takeWhile (· != '#') = text.takeWhile (· != '#') := by
  obtain ⟨before, after, rfl⟩ := List.append_of_mem cut
  rw [List.append_assoc, List.cons_append, (takeWhile_append_cons rfl _ _).1,
    (takeWhile_append_cons rfl _ _).1]

/-! Path and query. -/

/-- The query, given what follows the path. -/
def queryAt? : List Char → Option (List Char)
  | '?' :: rest => some (rest.takeWhile (· != '#'))
  | _ => none

theorem target?_eq (text : List Char) :
    target? text =
      if (text.takeWhile isBeforeQuery).all isPathChar &&
          (queryAt? (text.dropWhile isBeforeQuery)).all (List.all · isQueryChar) then
        some (String.ofList (text.takeWhile isBeforeQuery),
          (queryAt? (text.dropWhile isBeforeQuery)).map String.ofList)
      else none :=
  rfl

theorem target?_path (isPath : IsPath path) :
    target? path = if path.all isPathChar then some (String.ofList path, none) else none := by
  rw [target?_eq, List.takeWhile_eq_self_iff.2 isPath, List.dropWhile_eq_nil_iff.2 isPath]
  simp [queryAt?]

theorem target?_of_stop (isPath : IsPath path) {stop : Char} (stops : isBeforeQuery stop = false)
    (rest : List Char) :
    target? (path ++ stop :: rest) =
      if path.all isPathChar && (queryAt? (stop :: rest)).all (List.all · isQueryChar) then
        some (String.ofList path, (queryAt? (stop :: rest)).map String.ofList)
      else none := by
  obtain ⟨takes, drops⟩ := takeWhile_append_cons stops path rest
  rw [target?_eq, takes, drops, List.takeWhile_eq_self_iff.2 isPath,
    List.dropWhile_eq_nil_iff.2 isPath, List.nil_append]

theorem target?_query (isPath : IsPath path) (query : List Char) :
    target? (path ++ '?' :: query) =
      if path.all isPathChar && (query.takeWhile (· != '#')).all isQueryChar then
        some (String.ofList path, some (String.ofList (query.takeWhile (· != '#'))))
      else none :=
  target?_of_stop isPath rfl query

theorem target?_fragment (isPath : IsPath path) (fragment : List Char) :
    target? (path ++ '#' :: fragment) = target? path := by
  rw [target?_of_stop isPath rfl, target?_path isPath]
  simp [queryAt?]

theorem target?_append (valid : more.all isQueryChar = true) (text : List Char) :
    target? (text ++ '?' :: more) = (target? text).map fun (path, query) =>
      (path, if '#' ∈ text then query else some (prolong more query)) := by
  have solid : '#' ∉ more := fun member => absurd (List.all_eq_true.1 valid _ member) (by decide)
  cases parts text with
  | path isPath =>
      rw [target?_query isPath, target?_path isPath, takeWhile_of_not_mem solid, valid]
      simp only [isPath.not_mem.2, Bool.and_true]
      split <;> rfl
  | @query path isPath query =>
      have outside : '#' ∈ path ++ '?' :: query ↔ '#' ∈ query := by
        simp [isPath.not_mem.2]
      rw [List.append_assoc, List.cons_append, target?_query isPath, target?_query isPath]
      by_cases cut : '#' ∈ query
      · simp only [outside, cut, takeWhile_append_of_mem cut]
        split <;> rfl
      · have whole : '#' ∉ query ++ '?' :: more := by simp [cut, solid]
        have both : (query ++ '?' :: more).all isQueryChar = query.all isQueryChar := by
          rw [List.all_append, List.all_cons, valid]
          simp [isQueryChar]
        have prolonged : String.ofList (query ++ '?' :: more) =
            prolong more (some (String.ofList query)) := by
          simp [prolong, ← String.toList_inj]
        simp only [outside, cut, takeWhile_of_not_mem cut, takeWhile_of_not_mem whole, both,
          prolonged]
        split <;> rfl
  | @fragment path isPath fragment =>
      have inside : '#' ∈ path ++ '#' :: fragment := by simp
      rw [List.append_assoc, List.cons_append, target?_fragment isPath, target?_fragment isPath]
      simp only [inside, if_true, Option.map_id']

theorem query_eq_none_iff {start : String} {query : Option String}
    (targets : target? text = some (start, query)) (solid : '#' ∉ text) :
    query = none ↔ '?' ∉ text := by
  cases parts text with
  | path isPath =>
      rw [target?_path isPath] at targets
      split at targets
      · cases targets
        exact iff_of_true rfl isPath.not_mem.1
      · cases targets
  | query isPath after =>
      rw [target?_query isPath] at targets
      split at targets
      · cases targets
        simp
      · cases targets
  | fragment isPath after => simp at solid

/-! The whole. -/

/-- A scheme as it is kept. -/
def schemeName (scheme : List Char) : String :=
  let isWeb := ["http".toList, "https".toList].contains (Text.lower scheme)
  String.ofList (if isWeb then Text.lower scheme else scheme)

theorem splitScheme?_eq (named : scheme.all isSchemeChar = true)
    (short : scheme.length ≤ maxSchemeLength) (rest : List Char) :
    splitScheme? (scheme ++ "://".toList ++ rest) = some (some (schemeName scheme), rest) := by
  have stops : isSchemeChar ':' = false := by decide
  obtain ⟨takes, drops⟩ := takeWhile_append_cons stops scheme ('/' :: '/' :: rest)
  rw [List.takeWhile_eq_self_iff.2 (List.all_eq_true.1 named)] at takes
  rw [List.dropWhile_eq_nil_iff.2 (List.all_eq_true.1 named), List.nil_append] at drops
  have laidOut : scheme ++ "://".toList ++ rest = scheme ++ ':' :: '/' :: '/' :: rest :=
    List.append_assoc _ _ _
  rw [splitScheme?, laidOut, takes, drops]
  exact if_neg (Nat.not_lt.2 short)

/-- Queries and fragments are looked for behind the authority only, and stand nowhere else. -/
theorem mem_after_iff (named : scheme.all isSchemeChar = true) {char : Char}
    (starts : isBeforeQuery char = false) (rest : List Char) :
    char ∈ rest.dropWhile (fun char => !endsAuthority char) ↔
      char ∈ scheme ++ "://".toList ++ rest := by
  have sharp : char = '?' ∨ char = '#' := by
    simp only [isBeforeQuery, Bool.and_eq_false_iff, bne_eq_false_iff_eq] at starts
    exact starts
  have noScheme : char ∉ scheme := fun member => by
    have valid := List.all_eq_true.1 named char member
    rcases sharp with rfl | rfl <;> cases valid
  have noMark : char ∉ "://".toList := by
    rcases sharp with rfl | rfl <;> decide
  have noAuthority : char ∉ rest.takeWhile (fun char => !endsAuthority char) := fun member => by
    have inside := List.mem_takeWhile_imp member
    rcases sharp with rfl | rfl <;> cases inside
  have whole : char ∈ rest ↔ char ∈ rest.takeWhile (fun char => !endsAuthority char) ++
      rest.dropWhile (fun char => !endsAuthority char) := by
    rw [List.takeWhile_append_dropWhile]
  rw [List.mem_append, List.mem_append, or_iff_right (not_or.2 ⟨noScheme, noMark⟩), whole,
    List.mem_append, or_iff_right noAuthority]

theorem ofAuthority?_append (named : scheme.all isSchemeChar = true)
    (short : scheme.length ≤ maxSchemeLength) (valid : more.all isQueryChar = true)
    (rest : List Char) :
    ofAuthority? (scheme ++ "://".toList ++ rest ++ '?' :: more) =
      (ofAuthority? (scheme ++ "://".toList ++ rest)).map fun uri =>
        if '#' ∈ scheme ++ "://".toList ++ rest then uri
        else { uri with query := some (prolong more uri.query) } := by
  have stops : (!endsAuthority '?') = false := rfl
  have cut := takeWhile_append_cons (p := fun char => !endsAuthority char) stops rest more
  have starts : isBeforeQuery '#' = false := rfl
  rw [List.append_assoc]
  simp only [ofAuthority?, splitScheme?_eq named short, Option.bind_eq_bind, Option.bind_some,
    cut.1, cut.2, target?_append valid, ← mem_after_iff named starts, Option.isNone_some,
    Bool.false_and, Bool.or_false]
  split
  · rfl
  · cases target? (rest.dropWhile fun char => !endsAuthority char) with
    | none => rfl
    | some target =>
        simp only [Option.map_some, Option.bind_some]
        by_cases sharp : '#' ∈ rest.dropWhile fun char => !endsAuthority char
        · simp only [sharp, if_true]
        · simp only [sharp, if_false]

/-- A URI that starts with a scheme. -/
def HasScheme (text : List Char) : Prop :=
  ∃ scheme rest, text = scheme ++ "://".toList ++ rest ∧ scheme.all isSchemeChar = true ∧
    scheme.length ≤ maxSchemeLength

theorem parse?_of_hasScheme {text : String} (schemed : HasScheme text.toList) :
    parse? text = if maxLength < text.utf8ByteSize then none else ofAuthority? text.toList := by
  obtain ⟨scheme, rest, laidOut, named, -⟩ := schemed
  have noSlash (others : List Char) : text.toList ≠ '/' :: others := by
    intro same
    rw [laidOut] at same
    cases scheme with
    | nil => cases same
    | cons first scheme =>
        obtain ⟨rfl, -⟩ := List.cons_eq_cons.1 same
        cases List.all_eq_true.1 named '/' List.mem_cons_self
  have noStar : text.toList ≠ ['*'] := by
    intro same
    have longer : text.toList.length = 1 := by rw [same]; rfl
    rw [laidOut, List.length_append, List.length_append] at longer
    have mark : "://".toList.length = 3 := rfl
    omega
  rw [parse?]
  split
  · rfl
  · split
    · exact absurd ‹_› noStar
    · exact absurd ‹_› (noSlash _)
    · rfl

theorem HasScheme.append {text : List Char} (schemed : HasScheme text) (more : List Char) :
    HasScheme (text ++ more) := by
  obtain ⟨scheme, rest, rfl, named, short⟩ := schemed
  exact ⟨scheme, rest ++ more, List.append_assoc _ _ _, named, short⟩

theorem parse?_append {url more : String} (schemed : HasScheme url.toList)
    (valid : more.toList.all isQueryChar = true)
    (fits : (url ++ "?" ++ more).utf8ByteSize ≤ maxLength) :
    parse? (url ++ "?" ++ more) = (parse? url).map fun uri =>
      if '#' ∈ url.toList then uri
      else { uri with query := some (prolong more.toList uri.query) } := by
  have shorter : url.utf8ByteSize ≤ maxLength := by
    simp only [String.utf8ByteSize_append] at fits
    omega
  have laidOut : (url ++ "?" ++ more).toList = url.toList ++ '?' :: more.toList := by
    simp
  rw [parse?_of_hasScheme schemed,
    parse?_of_hasScheme (laidOut ▸ schemed.append ('?' :: more.toList)),
    if_neg (Nat.not_lt.2 fits), if_neg (Nat.not_lt.2 shorter), laidOut]
  obtain ⟨scheme, rest, isUrl, named, short⟩ := schemed
  rw [isUrl]
  exact ofAuthority?_append named short valid rest

theorem query_parse?_eq_none_iff {url : String} (schemed : HasScheme url.toList)
    (parsed : parse? url = some uri) (solid : '#' ∉ url.toList) :
    uri.query = none ↔ '?' ∉ url.toList := by
  rw [parse?_of_hasScheme schemed, Option.ite_none_left_eq_some] at parsed
  obtain ⟨scheme, rest, isUrl, named, short⟩ := schemed
  have query : isBeforeQuery '?' = false := rfl
  have fragment : isBeforeQuery '#' = false := rfl
  rw [isUrl, ← mem_after_iff named fragment] at solid
  rw [isUrl, ← mem_after_iff named query]
  simp only [isUrl, ofAuthority?, splitScheme?_eq named short, Option.bind_eq_bind,
    Option.bind_some, Option.ite_none_left_eq_some, Option.bind_eq_some_iff] at parsed
  obtain ⟨-, -, ⟨path, query⟩, targets, built⟩ := parsed
  cases built
  exact query_eq_none_iff targets solid

end EventHub.Http.Uri
