import EventHub.Hub.Protocol
import EventHub.Proofs.Json.Members
import EventHub.Proofs.Json.Spacing

/-!
What a client has to write for a command. Only the members that the command knows count, each once
and wherever it stands; what else is in the object has to be readable.
-/

namespace EventHub

namespace ClientCommand

open Json (occurrences WithinLimits Respaced)

variable {members others : List (Option String × Json)} {named : List (String × Json)}
  {command : ClientCommand}

/-- The members that commands have. -/
def memberNames : List String :=
  ["type", "events", "clusters"]

/-- The members that make up the command with a tag. -/
def contentOf : String → List String
  | "subscribe" => ["events", "clusters"]
  | "unsubscribe" => ["events"]
  | _ => []

def tag : ClientCommand → String
  | pong => "pong"
  | subscribe _ _ => "subscribe"
  | unsubscribe _ => "unsubscribe"

/-- The members that a command is read off. -/
def uses (command : ClientCommand) : List String :=
  "type" :: contentOf command.tag

/-- No member that a command may have is there twice. -/
def OnceEach (members : List (Option String × Json)) : Prop :=
  ∀ name ∈ memberNames, occurrences name members ≤ 1

/-- What the members ask for, and wherever they stand. -/
inductive Means (members : List (Option String × Json)) : ClientCommand → Prop where
  | pong (tagged : (some "type", .text "pong") ∈ members) : Means members .pong
  | subscribe {events clusters : List String}
      (tagged : (some "type", .text "subscribe") ∈ members)
      (given : (some "events", .texts events) ∈ members)
      (within : (some "clusters", .texts clusters) ∈ members) :
      Means members (.subscribe events clusters)
  | subscribeAll {events : List String} (tagged : (some "type", .text "subscribe") ∈ members)
      (given : (some "events", .texts events) ∈ members)
      (everywhere : ∀ value, (some "clusters", value) ∉ members) :
      Means members (.subscribe events [])
  | unsubscribe {events : List String} (tagged : (some "type", .text "unsubscribe") ∈ members)
      (given : (some "events", .texts events) ∈ members) : Means members (.unsubscribe events)

/-- A value is the content of a command, as far as the command looks at it. -/
def Fills (content : Json) : ClientCommand → Prop
  | pong => content.ignored? = some ()
  | subscribe events clusters => ∃ fields, content.fields? ["events", "clusters"] = some fields ∧
      fields.required? "events" Json.texts? = some events ∧
        fields.default? "clusters" Json.texts? [] = some clusters
  | unsubscribe events => ∃ fields, content.fields? ["events"] = some fields ∧
      fields.required? "events" Json.texts? = some events

theorem ofJson?_eq_some_iff {json : Json} :
    ofJson? json = some command ↔
      ∃ content, json.tagged? = some (command.tag, content) ∧ Fills content command := by
  simp only [ofJson?, Option.bind_eq_bind, Option.bind_eq_some_iff]
  constructor
  · rintro ⟨⟨named, content⟩, tagged, decoded⟩
    refine ⟨content, ?_⟩
    dsimp only at decoded
    split at decoded
    · obtain ⟨_, ignored, rfl⟩ := Option.map_eq_some_iff.1 decoded
      exact ⟨tagged, ignored⟩
    · simp only [Option.bind_eq_some_iff] at decoded
      obtain ⟨fields, read, events, given, clusters, within, made⟩ := decoded
      cases made
      exact ⟨tagged, fields, read, given, within⟩
    · simp only [Option.bind_eq_some_iff] at decoded
      obtain ⟨fields, read, decoded⟩ := decoded
      obtain ⟨events, given, rfl⟩ := Option.map_eq_some_iff.1 decoded
      exact ⟨tagged, fields, read, given⟩
    · cases decoded
  · rintro ⟨content, tagged, fills⟩
    refine ⟨_, tagged, ?_⟩
    cases command with
    | pong => exact Option.map_eq_some_iff.2 ⟨(), fills, rfl⟩
    | subscribe events clusters =>
        obtain ⟨fields, read, given, within⟩ := fills
        simp [tag, read, given, within]
    | unsubscribe events =>
        obtain ⟨fields, read, given⟩ := fills
        simp [tag, read, given]

theorem Means.tagged (meant : Means members command) :
    (some "type", .text command.tag) ∈ members := by
  cases meant <;> assumption

theorem means_subscribe_iff {events clusters : List String}
    (tagged : (some "type", .text "subscribe") ∈ members) :
    Means members (.subscribe events clusters) ↔
      (some "events", .texts events) ∈ members ∧
        ((some "clusters", .texts clusters) ∈ members ∨
          [] = clusters ∧ ∀ value, (some "clusters", value) ∉ members) := by
  constructor
  · rintro (_ | ⟨-, given, within⟩ | ⟨-, given, everywhere⟩ | _)
    · exact ⟨given, .inl within⟩
    · exact ⟨given, .inr ⟨rfl, everywhere⟩⟩
  · rintro ⟨given, within | ⟨rfl, everywhere⟩⟩
    · exact .subscribe tagged given within
    · exact .subscribeAll tagged given everywhere

theorem means_unsubscribe_iff {events : List String}
    (tagged : (some "type", .text "unsubscribe") ∈ members) :
    Means members (.unsubscribe events) ↔ (some "events", .texts events) ∈ members := by
  refine ⟨fun meant => ?_, .unsubscribe tagged⟩
  cases meant
  assumption

theorem untagged_of_contentOf {name : String} (part : name ∈ contentOf command.tag) :
    name ≠ "type" := by
  rintro rfl
  revert part
  cases command <;> simp only [tag, contentOf] <;> decide

/-- With its tag there, a command is what the members beside the tag make up. -/
theorem fills_iff (tagged : ("type", .text command.tag) ∈ named) :
    Fills (.record (named.filter (·.1 != "type"))) command ↔
      (∀ name ∈ contentOf command.tag, (named.map Prod.fst).count name ≤ 1) ∧
        Means (named.map fun member => (some member.1, member.2)) command := by
  have there := Json.mem_named.2 tagged
  -- The tag is no part of the content, so that taking it out changes nothing there.
  have unaffected : (∀ name ∈ contentOf command.tag,
      ((named.filter (·.1 != "type")).map Prod.fst).count name ≤ 1) ↔
        ∀ name ∈ contentOf command.tag, (named.map Prod.fst).count name ≤ 1 :=
    forall₂_congr fun name part => by rw [Json.count_untagged (untagged_of_contentOf part)]
  rw [← unaffected]
  have besideTag {name : String} (other : name ≠ "type") (value : Json) :
      (name, value) ∈ named.filter (·.1 != "type") ↔
        (some name, value) ∈ named.map fun member => (some member.1, member.2) :=
    (Json.mem_untagged other).trans Json.mem_named.symm
  have events := besideTag (show "events" ≠ "type" by decide)
  have clusters := besideTag (show "clusters" ≠ "type" by decide)
  cases command with
  | pong => exact iff_of_true rfl ⟨fun name absent => (nomatch absent), .pong there⟩
  | subscribe wanted places =>
      rw [means_subscribe_iff there, Fills, Json.exists_fields?_named_iff]
      refine and_congr_right fun once => ?_
      rw [Json.required?_named_iff once (by decide), Json.default?_named_iff once (by decide)]
      simp only [Json.texts?_eq_some_iff, exists_eq_right, events, clusters]
  | unsubscribe wanted =>
      rw [means_unsubscribe_iff there, Fills, Json.exists_fields?_named_iff]
      refine and_congr_right fun once => ?_
      rw [Json.required?_named_iff once (by decide)]
      simp only [Json.texts?_eq_some_iff, exists_eq_right, events]

/-- Whatever else is in an object, a command is read off the members it uses. -/
theorem ofJson?_object_iff :
    ofJson? (.object members) = some command ↔
      WithinLimits members ∧ (∀ name ∈ command.uses, occurrences name members ≤ 1) ∧
        Means members command := by
  by_cases within : WithinLimits members
  · obtain ⟨named, rfl⟩ := Json.exists_named within
    rw [ofJson?_eq_some_iff, ← Json.record]
    simp only [Json.tagged?_named_iff within, Json.occurrences_named, uses, List.forall_mem_cons]
    constructor
    · rintro ⟨content, ⟨once, tagged, rfl⟩, fills⟩
      obtain ⟨onceToo, meant⟩ := (fills_iff tagged).1 fills
      exact ⟨within, ⟨once, onceToo⟩, meant⟩
    · rintro ⟨-, ⟨once, onceToo⟩, meant⟩
      have tagged := Json.mem_named.1 meant.tagged
      exact ⟨_, ⟨once, tagged, rfl⟩, (fills_iff tagged).2 ⟨onceToo, meant⟩⟩
  · refine iff_of_false (fun decoded => ?_) fun meant => within meant.1
    obtain ⟨content, tagged, -⟩ := ofJson?_eq_some_iff.1 decoded
    rw [WithinLimits] at within
    rw [Json.tagged?, if_neg within] at tagged
    cases tagged

/-! Commands in text. -/

variable {text other : String}

theorem parse_eq_ok_iff (reads : Json.parse? text = some (.object members)) :
    parse text = .ok command ↔
      WithinLimits members ∧ (∀ name ∈ command.uses, occurrences name members ≤ 1) ∧
        Means members command := by
  rw [← ofJson?_object_iff, parse, reads, Option.bind_some]
  cases ofJson? (.object members) <;> simp

theorem parse_eq_error (none : ∀ command, parse text ≠ .ok command) :
    parse text = .error (.malformedControlMessage "") := by
  rw [parse] at none ⊢
  split
  · rename_i command decoded
    rw [decoded] at none
    exact absurd rfl (none command)
  · rfl

theorem parse_congr (same : ∀ command, parse other = .ok command ↔ parse text = .ok command) :
    parse other = parse text := by
  cases outcome : parse text with
  | ok command => exact (same command).2 outcome
  | error cause =>
      have fails (command : ClientCommand) : parse text ≠ .ok command := by simp [outcome]
      rw [← outcome, parse_eq_error fails]
      exact parse_eq_error fun command decoded => fails command ((same command).1 decoded)

/-- The members under some of the names. -/
def among (names : List String) (members : List (Option String × Json)) :
    List (Option String × Json) :=
  members.filter fun member => member.1.any names.contains

theorem mem_among {names : List String} {name : String} {value : Json} (listed : name ∈ names) :
    (some name, value) ∈ among names members ↔ (some name, value) ∈ members := by
  simp [among, listed]

theorem occurrences_among {names : List String} {name : String} (listed : name ∈ names) :
    occurrences name (among names members) = occurrences name members := by
  have keys : (among names members).map Prod.fst =
      (members.map Prod.fst).filter fun key => key.any names.contains := by
    rw [List.filter_map]
    rfl
  rw [occurrences, keys]
  exact List.count_filter (by simpa using listed)

/-- What members ask for is decided by those that the command uses. -/
theorem Means.congr
    (same : ∀ name ∈ command.uses, ∀ value,
      (some name, value) ∈ members ↔ (some name, value) ∈ others)
    (meant : Means members command) : Means others command := by
  cases meant with
  | pong tagged => exact .pong ((same "type" (.head _) _).1 tagged)
  | subscribe tagged given within =>
      refine .subscribe ((same "type" (.head _) _).1 tagged) ((same "events" ?_ _).1 given)
        ((same "clusters" ?_ _).1 within)
      all_goals simp [uses, contentOf, tag]
  | subscribeAll tagged given everywhere =>
      refine .subscribeAll ((same "type" (.head _) _).1 tagged) ((same "events" ?_ _).1 given)
        fun value there => everywhere value ((same "clusters" ?_ _).2 there)
      all_goals simp [uses, contentOf, tag]
  | unsubscribe tagged given =>
      refine .unsubscribe ((same "type" (.head _) _).1 tagged) ((same "events" ?_ _).1 given)
      simp [uses, contentOf, tag]

theorem parse_ok_of_among (reads : Json.parse? text = some (.object members))
    (readsOther : Json.parse? other = some (.object others))
    (within : WithinLimits members → WithinLimits others)
    (same : (among command.uses members).Perm (among command.uses others))
    (decoded : parse text = .ok command) : parse other = .ok command := by
  obtain ⟨readable, once, meant⟩ := (parse_eq_ok_iff reads).1 decoded
  refine (parse_eq_ok_iff readsOther).2 ⟨within readable, fun name listed => ?_,
    meant.congr fun name listed value => ?_⟩
  · rw [← occurrences_among listed, occurrences, ← (same.map Prod.fst).count_eq, ← occurrences,
      occurrences_among listed]
    exact once name listed
  · rw [← mem_among listed, same.mem_iff, mem_among listed]

/-- A member that no command has, and that can be read. -/
def Extra (member : Option String × Json) : Prop :=
  ∃ name, member.1 = some name ∧ name ∉ memberNames ∧
    member.2.readable (Json.depthLimit - 1) = true

/-- The same members in some other order, and among them other extra ones. -/
def Rearranged (members others : List (Option String × Json)) : Prop :=
  ∃ kept extras extrasToo, (∀ member ∈ extras, Extra member) ∧
    (∀ member ∈ extrasToo, Extra member) ∧ members.Perm (kept ++ extras) ∧
      others.Perm (kept ++ extrasToo)

theorem Rearranged.symm (rearranged : Rearranged members others) : Rearranged others members := by
  obtain ⟨kept, extras, extrasToo, extra, extraToo, left, right⟩ := rearranged
  exact ⟨kept, extrasToo, extras, extraToo, extra, right, left⟩

theorem Rearranged.withinLimits (rearranged : Rearranged members others)
    (within : WithinLimits members) : WithinLimits others := by
  obtain ⟨kept, extras, extrasToo, -, extraToo, left, right⟩ := rearranged
  rw [Json.withinLimits_iff] at within ⊢
  intro member there
  obtain known | extra := List.mem_append.1 (right.mem_iff.1 there)
  · exact within member (left.mem_iff.2 (List.mem_append_left _ known))
  · obtain ⟨name, named, -, readable⟩ := extraToo member extra
    exact ⟨by rw [named]; rfl, readable⟩

theorem among_extras {names : List String} (known : ∀ name ∈ names, name ∈ memberNames)
    {extras : List (Option String × Json)} (extra : ∀ member ∈ extras, Extra member) :
    among names extras = [] := by
  rw [among, List.filter_eq_nil_iff]
  intro member there listed
  obtain ⟨name, named, unknown, -⟩ := extra member there
  rw [named, Option.any_some, List.contains_iff_mem] at listed
  exact unknown (known name listed)

theorem Rearranged.among (rearranged : Rearranged members others) {names : List String}
    (known : ∀ name ∈ names, name ∈ memberNames) :
    (among names members).Perm (among names others) := by
  obtain ⟨kept, extras, extrasToo, extra, extraToo, left, right⟩ := rearranged
  have alone {items more : List (Option String × Json)} (split : items.Perm (kept ++ more))
      (extra : ∀ member ∈ more, Extra member) :
      (ClientCommand.among names items).Perm (ClientCommand.among names kept) := by
    refine (split.filter _).trans (.of_eq ?_)
    rw [List.filter_append]
    exact (congrArg _ (among_extras known extra)).trans (List.append_nil _)
  exact (alone left extra).trans (alone right extraToo).symm

theorem uses_subset (command : ClientCommand) : command.uses ⊆ memberNames := by
  cases command <;> simp [uses, contentOf, tag, memberNames]

theorem parse_of_rearranged (reads : Json.parse? text = some (.object members))
    (readsOther : Json.parse? other = some (.object others))
    (rearranged : Rearranged members others) : parse other = parse text := by
  refine parse_congr fun command => ⟨?_, ?_⟩
  · exact parse_ok_of_among readsOther reads rearranged.symm.withinLimits
      (rearranged.symm.among command.uses_subset)
  · exact parse_ok_of_among reads readsOther rearranged.withinLimits
      (rearranged.among command.uses_subset)

theorem tag_of_parse {tag : String} (tagged : (some "type", .text tag) ∈ members)
    (reads : Json.parse? text = some (.object members)) (decoded : parse text = .ok command) :
    command.tag = tag := by
  obtain ⟨-, once, meant⟩ := (parse_eq_ok_iff reads).1 decoded
  exact Json.text.inj
    (Json.eq_of_occurrences_le_one (once "type" (.head _)) meant.tagged tagged)

/-- Only the members that go with the tag are looked at. -/
theorem parse_of_same_variant {tag : String} (tagged : (some "type", .text tag) ∈ members)
    (reads : Json.parse? text = some (.object members)) (within : WithinLimits members)
    (readsOther : Json.parse? other = some (.object others)) (withinToo : WithinLimits others)
    (same : (among ("type" :: contentOf tag) members).Perm
      (among ("type" :: contentOf tag) others)) : parse other = parse text := by
  have taggedToo : (some "type", .text tag) ∈ others :=
    (mem_among (.head _)).1 (same.mem_iff.1 ((mem_among (.head _)).2 tagged))
  -- Either text can only be the command with that tag.
  refine parse_congr fun command => ⟨fun decoded => ?_, fun decoded => ?_⟩
  · obtain rfl := tag_of_parse taggedToo readsOther decoded
    exact parse_ok_of_among readsOther reads (fun _ => within) same.symm decoded
  · obtain rfl := tag_of_parse tagged reads decoded
    exact parse_ok_of_among reads readsOther (fun _ => withinToo) same decoded

theorem parse_of_repeated {tag name : String} (tagged : (some "type", .text tag) ∈ members)
    (reads : Json.parse? text = some (.object members)) (used : name ∈ "type" :: contentOf tag)
    (repeated : 1 < occurrences name members) :
    parse text = .error (.malformedControlMessage "") := by
  refine parse_eq_error fun command decoded => ?_
  obtain rfl := tag_of_parse tagged reads decoded
  obtain ⟨-, once, -⟩ := (parse_eq_ok_iff reads).1 decoded
  exact absurd (once name used) (Nat.not_le.2 repeated)

theorem parse_of_repeated_type (reads : Json.parse? text = some (.object members))
    (repeated : 1 < occurrences "type" members) :
    parse text = .error (.malformedControlMessage "") := by
  refine parse_eq_error fun command decoded => ?_
  obtain ⟨-, once, -⟩ := (parse_eq_ok_iff reads).1 decoded
  exact absurd (once "type" (.head _)) (Nat.not_le.2 repeated)

/-- Of a text that is an object, only the known members decide: not how the text is spaced, not
where its members stand, and no other member as long as it can be read. -/
theorem known_members_decide (reads : Json.parse? text = some (.object members)) :
    (∀ other : String, Respaced text.toList other.toList → parse other = parse text) ∧
      (∀ (other : String) (others : List (Option String × Json)),
        Json.parse? other = some (.object others) → Rearranged members others →
          parse other = parse text) ∧
      (OnceEach members →
        (∀ command, parse text = .ok command ↔ WithinLimits members ∧ Means members command) ∧
          ((¬∃ command, WithinLimits members ∧ Means members command) →
            parse text = .error (.malformedControlMessage ""))) ∧
      (∀ tag : String, (some "type", .text tag) ∈ members → WithinLimits members →
        ∀ (other : String) (others : List (Option String × Json)),
          Json.parse? other = some (.object others) → WithinLimits others →
            (among ("type" :: contentOf tag) members).Perm
              (among ("type" :: contentOf tag) others) → parse other = parse text) ∧
      (1 < occurrences "type" members → parse text = .error (.malformedControlMessage "")) ∧
      (∀ tag name : String, (some "type", .text tag) ∈ members → name ∈ contentOf tag →
        1 < occurrences name members → parse text = .error (.malformedControlMessage "")) := by
  refine ⟨fun other respaced => ?_,
    fun other others readsOther => parse_of_rearranged reads readsOther, fun once => ?_,
    fun tag tagged within other others readsOther withinToo =>
      parse_of_same_variant tagged reads within readsOther withinToo, parse_of_repeated_type reads,
    fun tag name tagged used => parse_of_repeated tagged reads (.tail _ used)⟩
  · rw [parse, parse, Json.parse?_respaced respaced reads, reads]
  · have decides (command : ClientCommand) :
        parse text = .ok command ↔ WithinLimits members ∧ Means members command := by
      rw [parse_eq_ok_iff reads]
      exact and_congr_right fun _ =>
        and_iff_right fun name used => once name (command.uses_subset used)
    exact ⟨decides, fun none => parse_eq_error fun command decoded =>
      none ⟨command, (decides command).1 decoded⟩⟩

theorem known_members_decide_tagLast :
    Json.parse? "\x7b\"events\":[\"added\"],\"note\":1,\"type\":\"subscribe\"\x7d" =
        some (.object [(some "events", .texts ["added"]), (some "note", .natural 1),
          (some "type", .text "subscribe")]) ∧
      parse "\x7b\"events\":[\"added\"],\"note\":1,\"type\":\"subscribe\"\x7d" =
        .ok (.subscribe ["added"] []) := by
  have reads : Json.parse? "\x7b\"events\":[\"added\"],\"note\":1,\"type\":\"subscribe\"\x7d" =
      some (.object [(some "events", .texts ["added"]), (some "note", .natural 1),
        (some "type", .text "subscribe")]) := rfl
  have once : OnceEach [(some "events", .texts ["added"]), (some "note", .natural 1),
      (some "type", .text "subscribe")] := by
    rw [OnceEach]
    decide
  obtain ⟨decides, -⟩ := (known_members_decide reads).2.2.1 once
  exact ⟨reads, (decides _).2
    ⟨rfl, .subscribeAll (.tail _ (.tail _ (.head _))) (.head _) (by simp)⟩⟩

/-- A member that is not looked at is read all the same: no number may be beyond the doubles. -/
theorem pong_beside_unreadable :
    Json.parse? "\x7b\"type\":\"pong\",\"events\":1e9999999999\x7d" =
        some (.object [(some "type", .text "pong"), (some "events", .unreadable)]) ∧
      OnceEach [(some "type", .text "pong"), (some "events", .unreadable)] ∧
      Means [(some "type", .text "pong"), (some "events", .unreadable)] .pong ∧
      parse "\x7b\"type\":\"pong\",\"events\":1e9999999999\x7d" =
        .error (.malformedControlMessage "") := by
  have reads : Json.parse? "\x7b\"type\":\"pong\",\"events\":1e9999999999\x7d" =
      some (.object [(some "type", .text "pong"), (some "events", .unreadable)]) := rfl
  refine ⟨reads, ?_, .pong (.head _), ?_⟩
  · rw [OnceEach]
    decide
  · rw [parse, reads]
    rfl

end ClientCommand

end EventHub
