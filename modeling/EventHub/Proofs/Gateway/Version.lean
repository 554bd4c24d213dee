import EventHub.Proofs.Gateway.Agreement
import EventHub.Proofs.Http.Query
import EventHub.Proofs.Http.Target
import EventHub.Proofs.Text.Digits
import EventHub.Settings.Gateway

/-!
The protocol version on its way to the hub. A gateway puts the version a client asks for at the end
of the hub's URL; the hub reads it there if the URL has neither a query nor a fragment of its own,
and otherwise it reads the same whatever the client asked for.

All of this is about the query of the handshake. Where the URL has no path, a version makes the
query the whole target of the request, and a server refuses that as no URI before it reads any
query.
-/

namespace EventHub

namespace SocketParams

variable {front ends others : List (String × String)}

/-- What may matter for the version when more parameters are read. -/
def outline (params : SocketParams) : Option UInt32 × Bool :=
  (params.protocol, params.accessToken.isSome)

theorem version?_toString (version : UInt32) :
    version? (toString version.toNat) = some version := by
  rw [version?, Text.natural?_toString]
  simp [version.toNat_lt]

theorem version?_eq_none {value : String} (spoilt : '?' ∈ value.toList) :
    version? value = none := by
  rw [version?, Text.natural?_eq_none spoilt rfl (by decide)]

/-- The outline with one parameter more. -/
def extend? (name value : String) (before : Option UInt32 × Bool) :
    Option (Option UInt32 × Bool) :=
  if name = "protocol" then
    if before.1.isSome then none else (version? value).map fun version => (some version, before.2)
  else if name = "access_token" then
    if before.2 then none else some (before.1, true)
  else some before

theorem outline_cons (name value : String) (rest : List (String × String)) :
    (ofPairs? ((name, value) :: rest)).map outline =
      ((ofPairs? rest).map outline).bind (extend? name value) := by
  rw [ofPairs?, Option.bind_eq_bind]
  cases ofPairs? rest with
  | none => rfl
  | some params =>
      simp only [Option.bind_some, Option.map_some, extend?, outline]
      split
      · split
        · rfl
        · cases version? value <;> rfl
      · split
        · split <;> rfl
        · rfl

theorem outline_append (same : (ofPairs? ends).map outline = (ofPairs? others).map outline)
    (front : List (String × String)) :
    (ofPairs? (front ++ ends)).map outline = (ofPairs? (front ++ others)).map outline := by
  induction front with
  | nil => exact same
  | cons pair front ih => rw [List.cons_append, List.cons_append, outline_cons, outline_cons, ih]

/-- A value with a question mark is no version, and any other value is like the next. -/
theorem extend?_of_spoilt {name value other : String} (spoilt : '?' ∈ value.toList)
    (spoiltToo : '?' ∈ other.toList) (before : Option UInt32 × Bool) :
    extend? name value before = extend? name other before := by
  rw [extend?, extend?, version?_eq_none spoilt, version?_eq_none spoiltToo]

/-- No parameter that a server knows has a question mark in its name. -/
theorem extend?_of_unknown {name : String} (unknown : '?' ∈ name.toList) (value : String)
    (before : Option UInt32 × Bool) : extend? name value before = some before := by
  have noProtocol : name ≠ "protocol" := by
    rintro rfl
    exact absurd unknown (by decide)
  have noToken : name ≠ "access_token" := by
    rintro rfl
    exact absurd unknown (by decide)
  rw [extend?, if_neg noProtocol, if_neg noToken]

/-- The parameter for a version, as the gateway writes it. -/
def parameter (version : UInt32) : String :=
  "protocol=" ++ toString version.toNat

theorem toList_parameter (version : UInt32) :
    (parameter version).toList = "protocol".toList ++ '=' :: (toString version.toNat).toList := by
  rw [parameter, String.toList_append]
  rfl

theorem plain_of_isDigit {char : Char} (digit : char.isDigit = true) :
    Http.isLiteral char = true ∧ Http.Uri.isQueryChar char = true ∧ char ≠ '&' := by
  have ascii : char.toNat < 0x80 := by
    simp only [Char.isDigit, Bool.and_eq_true, decide_eq_true_eq, UInt32.le_iff_toNat_le] at digit
    exact Nat.lt_of_le_of_lt digit.2 (by decide)
  refine Text.forall_ascii (motive := fun char => char.isDigit = true →
    Http.isLiteral char = true ∧ Http.Uri.isQueryChar char = true ∧ char ≠ '&') ?_ ascii digit
  decide +kernel

theorem valid_parameter (version : UInt32) :
    ∀ char ∈ (parameter version).toList, Http.Uri.isQueryChar char = true ∧ char ≠ '&' := by
  intro char member
  rw [toList_parameter, List.mem_append, List.mem_cons] at member
  rcases member with name | rfl | digit
  · have all : "protocol".toList.all
        (fun char => Http.Uri.isQueryChar char = true ∧ char ≠ '&') = true := by decide
    simpa using List.all_eq_true.1 all char name
  · decide
  · exact (plain_of_isDigit (Text.isDigit_of_mem_toString digit)).2

open Http (queryPairs decodePair decodeComponent)

theorem splitFirst_eq_of_not_mem {name value : List Char} (solid : '=' ∉ name) :
    decodePair (name ++ '=' :: value) = (decodeComponent name, decodeComponent value) := by
  rw [decodePair, Text.splitFirst_eq_some.2 ⟨rfl, solid⟩]

theorem ofQuery?_parameter (version : UInt32) :
    ofQuery? (some (parameter version)) = some { protocol := some version } := by
  have solid : '&' ∉ (parameter version).toList := fun member =>
    (valid_parameter version _ member).2 rfl
  have pair : decodePair (parameter version).toList = ("protocol", toString version.toNat) := by
    have digits : ∀ char ∈ (toString version.toNat).toList, Http.isLiteral char = true :=
      fun char member => (plain_of_isDigit (Text.isDigit_of_mem_toString member)).1
    rw [toList_parameter, splitFirst_eq_of_not_mem (by decide),
      Http.decodeComponent_of_literal digits, String.ofList_toList]
    rfl
  have pairs : queryPairs (parameter version).toList = [("protocol", toString version.toNat)] := by
    have nonempty : (parameter version).toList.isEmpty = false := by
      rw [toList_parameter]
      rfl
    rw [queryPairs, Text.splitAll_eq_splitOn, List.splitOn_eq_singleton solid,
      List.filter_cons_of_pos (by simp [nonempty]), List.filter_nil, ← pair]
    rfl
  rw [ofQuery?, Option.getD_some, pairs, ofPairs?_cons_eq_some_iff]
  exact ⟨{}, rfl, .protocol rfl rfl (version?_toString version)⟩

theorem extend?_decodePair (last : List Char) (version other : UInt32)
    (before : Option UInt32 × Bool) :
    let spoilt := decodePair (last ++ '?' :: (parameter version).toList)
    let spoiltToo := decodePair (last ++ '?' :: (parameter other).toList)
    extend? spoilt.1 spoilt.2 before = extend? spoiltToo.1 spoiltToo.2 before := by
  by_cases named : '=' ∈ last
  -- The question mark gets into the value of the last parameter.
  · obtain ⟨name, value, rfl, solid⟩ := List.eq_append_cons_of_mem named
    simp only [List.append_assoc, List.cons_append, splitFirst_eq_of_not_mem solid]
    exact extend?_of_spoilt (Http.mem_decodeComponent _ _) (Http.mem_decodeComponent _ _) before
  -- The last parameter has no value, and the question mark gets into its name.
  · have solid : '=' ∉ last ++ '?' :: "protocol".toList := by
      rw [List.mem_append, not_or]
      exact ⟨named, by decide⟩
    have laidOut (version : UInt32) : last ++ '?' :: (parameter version).toList =
        last ++ '?' :: "protocol".toList ++ '=' :: (toString version.toNat).toList := by
      rw [toList_parameter, List.append_assoc, List.cons_append]
    simp only [laidOut, splitFirst_eq_of_not_mem solid]
    rw [extend?_of_unknown (Http.mem_decodeComponent _ _),
      extend?_of_unknown (Http.mem_decodeComponent _ _)]

/-- A hub reads nothing of a version that was put behind a query. -/
theorem protocol_prolonged (query : String) (version other : UInt32) :
    (ofQuery? (some (query ++ "?" ++ parameter version))).map protocol =
      (ofQuery? (some (query ++ "?" ++ parameter other))).map protocol := by
  obtain ⟨init, last, -, split⟩ := Text.exists_splitAll_append '&' query.toList
  have pairs (version : UInt32) :
      queryPairs (query ++ "?" ++ parameter version).toList =
        (init.filter fun part => !part.isEmpty).map decodePair ++
          [decodePair (last ++ '?' :: (parameter version).toList)] := by
    have solid : '&' ∉ '?' :: (parameter version).toList := by
      rw [List.mem_cons, not_or]
      exact ⟨by decide, fun member => (valid_parameter version _ member).2 rfl⟩
    have laidOut : (query ++ "?" ++ parameter version).toList =
        query.toList ++ '?' :: (parameter version).toList := by
      simp
    rw [queryPairs, laidOut, split _ solid]
    simp
  have outlines : (ofQuery? (some (query ++ "?" ++ parameter version))).map outline =
      (ofQuery? (some (query ++ "?" ++ parameter other))).map outline := by
    rw [ofQuery?, ofQuery?, Option.getD_some, Option.getD_some, pairs, pairs]
    refine outline_append ?_ _
    rw [outline_cons, outline_cons]
    exact extend?_decodePair last version other _
  have versions := congrArg (Option.map Prod.fst) outlines
  rw [Option.map_map, Option.map_map] at versions
  exact versions

end SocketParams

namespace HubLink

variable {link : HubLink} {identity : Identity} {version other : UInt32} {uri : Http.Uri}
  {request : Http.Request}

/-- The hub's URL has no query and no fragment. -/
def IsBare (link : HubLink) : Prop :=
  '?' ∉ link.url.toList ∧ '#' ∉ link.url.toList

/-- What the hub reads of the version in every handshake for clients that ask so. -/
def Conveys (link : HubLink) (asked : Option UInt32) (read : Option (Option UInt32)) : Prop :=
  ∀ identity uri request, link.handshake identity asked = .ok (uri, request) →
    (SocketParams.ofQuery? request.query).map SocketParams.protocol = read

theorem handshake_eq_ok_iff {asked : Option UInt32} :
    link.handshake identity asked = .ok (uri, request) ↔
      Http.Uri.parse? (link.urlFor asked) = some uri ∧
      isHeaderValue identity.toHeader = true ∧ isHeaderValue link.proxySecret = true ∧
      ∃ host, uri.host? = some host ∧ request =
        { method := "GET"
          path := uri.sentPath
          query := uri.query
          headers := link.handshakeHeaders host identity
          upgradable := true } := by
  rw [handshake]
  cases Http.Uri.parse? (link.urlFor asked) with
  | none => simp
  | some target =>
      cases atHost : target.host? with
      | none =>
          simp only [Option.bind_some, atHost, Option.map_none]
          refine iff_of_false (fun made => by cases made) ?_
          rintro ⟨⟨⟩, -, -, host, atHost', -⟩
          cases atHost.symm.trans atHost'
      | some host =>
          simp only [Option.bind_some, atHost, Option.map_some]
          split
          · rename_i valid
            rw [Bool.and_eq_true] at valid
            constructor
            · rintro ⟨⟩
              exact ⟨rfl, valid.1, valid.2, host, atHost, rfl⟩
            · rintro ⟨⟨⟩, -, -, host', atHost', rfl⟩
              cases atHost.symm.trans atHost'
              rfl
          · rename_i invalid
            refine iff_of_false (fun made => by cases made) ?_
            rintro ⟨-, value, secret, -⟩
            exact invalid (Bool.and_eq_true_iff.2 ⟨value, secret⟩)

theorem upgradeProblem?_of_handshake {asked : Option UInt32}
    (made : link.handshake identity asked = .ok (uri, request)) :
    request.upgradeProblem? = none := by
  obtain ⟨target, -, -, host, atHost, isRequest⟩ := handshake_eq_ok_iff.1 made
  have headers := headers_of_handshake target atHost made
  have first {name value : String} (sent : ((link.handshakeHeaders host identity).filter
      fun header => header.1 == name).head?.map Prod.snd = some value) :
      request.rawHeader? name = some value := by
    rw [Http.Request.rawHeader?, rawHeaders_handshake headers, List.head?_map, sent]
  have connection : request.rawHeader? "connection" = some "Upgrade" := first rfl
  have upgrade : request.rawHeader? "upgrade" = some "websocket" := first rfl
  have version : request.rawHeader? "sec-websocket-version" = some "13" := first rfl
  rw [Http.Request.upgradeProblem?_eq_none_iff]
  refine ⟨by rw [isRequest], ?_, ?_, ⟨_, first rfl⟩, ?_, by rw [isRequest]⟩
  · rw [Http.Request.headerMentions, connection]
    decide
  · rw [Http.Request.headerIs, upgrade]
    decide
  · rw [Http.Request.headerIs, version]
    decide

theorem urlFor_some (link : HubLink) (version : UInt32) :
    link.urlFor (some version) = link.url ++ "?" ++ SocketParams.parameter version := by
  have mark : "?protocol=" = "?" ++ "protocol=" := by decide
  rw [SocketParams.parameter, urlFor, mark, String.append_assoc, String.append_assoc,
    String.append_assoc]

theorem hasScheme_of_accepted (accepted : HubLinkSettings.urlProblems link.url = []) :
    Http.Uri.HasScheme link.url.toList := by
  rw [HubLinkSettings.urlProblems] at accepted
  cases schemed : HubLinkSettings.afterScheme? link.url.toList with
  | none => simp [schemed] at accepted
  | some rest =>
      unfold HubLinkSettings.afterScheme? at schemed
      split at schemed
      · cases schemed
        exact ⟨"ws".toList, rest, ‹_›, by decide, by decide⟩
      · cases schemed
        exact ⟨"wss".toList, rest, ‹_›, by decide, by decide⟩
      · cases schemed

/-- The target for a version is the hub's own with more in its query, unless a fragment follows. -/
theorem parse?_urlFor_some (accepted : HubLinkSettings.urlProblems link.url = [])
    (fits : (link.urlFor (some version)).utf8ByteSize ≤ Http.Uri.maxLength) :
    Http.Uri.parse? (link.urlFor (some version)) = (Http.Uri.parse? link.url).map fun uri =>
      if '#' ∈ link.url.toList then uri
      else { uri with
        query := some (Http.Uri.prolong (SocketParams.parameter version).toList uri.query) } := by
  have valid : (SocketParams.parameter version).toList.all Http.Uri.isQueryChar = true :=
    List.all_eq_true.2 fun char member => (SocketParams.valid_parameter version char member).1
  rw [urlFor_some] at fits ⊢
  exact Http.Uri.parse?_append (hasScheme_of_accepted accepted) valid fits

theorem fits_of_parse? {asked : Option UInt32}
    (target : Http.Uri.parse? (link.urlFor asked) = some uri) :
    (link.urlFor asked).utf8ByteSize ≤ Http.Uri.maxLength := by
  refine Nat.not_lt.1 fun long => ?_
  rw [Http.Uri.parse?, if_pos long] at target
  cases target

theorem query_of_handshake (accepted : HubLinkSettings.urlProblems link.url = [])
    (made : link.handshake identity (some version) = .ok (uri, request)) :
    ∃ own, Http.Uri.parse? link.url = some own ∧ request.query =
      if '#' ∈ link.url.toList then own.query
      else some (Http.Uri.prolong (SocketParams.parameter version).toList own.query) := by
  obtain ⟨target, -, -, host, atHost, rfl⟩ := handshake_eq_ok_iff.1 made
  rw [parse?_urlFor_some accepted (fits_of_parse? target), Option.map_eq_some_iff] at target
  obtain ⟨own, parsed, rfl⟩ := target
  refine ⟨own, parsed, ?_⟩
  dsimp only
  split <;> rfl

theorem query_of_isBare (accepted : HubLinkSettings.urlProblems link.url = [])
    (bare : link.IsBare) (made : link.handshake identity (some version) = .ok (uri, request)) :
    request.query = some (SocketParams.parameter version) := by
  obtain ⟨own, parsed, query⟩ := query_of_handshake accepted made
  have none := (Http.Uri.query_parse?_eq_none_iff (hasScheme_of_accepted accepted) parsed
    bare.2).2 bare.1
  rw [query, if_neg bare.2, none, Http.Uri.prolong, String.ofList_toList]

theorem conveys_of_isBare (accepted : HubLinkSettings.urlProblems link.url = [])
    (bare : link.IsBare) (version : UInt32) :
    link.Conveys (some version) (some (some version)) := by
  intro identity uri request made
  rw [query_of_isBare accepted bare made, SocketParams.ofQuery?_parameter]
  rfl

/-- Behind a query or a fragment of the URL, every version is lost alike. -/
theorem conveys_of_not_isBare (accepted : HubLinkSettings.urlProblems link.url = [])
    (laden : ¬link.IsBare) : ∃ read, ∀ version, link.Conveys (some version) read := by
  cases parsed : Http.Uri.parse? link.url with
  | none =>
      refine ⟨none, fun version identity uri request made => ?_⟩
      obtain ⟨own, parsed', -⟩ := query_of_handshake accepted made
      cases parsed.symm.trans parsed'
  | some own =>
      have query {version : UInt32} {identity : Identity} {uri : Http.Uri} {request : Http.Request}
          (made : link.handshake identity (some version) = .ok (uri, request)) :
          request.query = if '#' ∈ link.url.toList then own.query
            else some (Http.Uri.prolong (SocketParams.parameter version).toList own.query) := by
        obtain ⟨own', parsed', query⟩ := query_of_handshake accepted made
        cases parsed.symm.trans parsed'
        exact query
      by_cases fragment : '#' ∈ link.url.toList
      -- The parameter is in the fragment, which is not sent.
      · refine ⟨(SocketParams.ofQuery? own.query).map SocketParams.protocol, ?_⟩
        intro version identity uri request made
        rw [query made, if_pos fragment]
      -- The parameter is in the last one of the URL's own query.
      · have asks : own.query ≠ none := by
          rw [Ne, Http.Uri.query_parse?_eq_none_iff (hasScheme_of_accepted accepted) parsed
            fragment]
          exact fun noQuery => laden ⟨noQuery, fragment⟩
        obtain ⟨text, isText⟩ := Option.ne_none_iff_exists'.1 asks
        refine ⟨(SocketParams.ofQuery? (some (text ++ "?" ++ SocketParams.parameter 0))).map
          SocketParams.protocol, ?_⟩
        intro version identity uri request made
        rw [query made, if_neg fragment, isText, Http.Uri.prolong, String.ofList_toList]
        exact SocketParams.protocol_prolonged text version 0

/-- Asking for a version keeps no handshake from being made, unless the URL gets too long. -/
theorem exists_handshake_some (accepted : HubLinkSettings.urlProblems link.url = [])
    (fits : (link.urlFor (some version)).utf8ByteSize ≤ Http.Uri.maxLength)
    (made : link.handshake identity none = .ok (uri, request)) :
    ∃ uri request, link.handshake identity (some version) = .ok (uri, request) := by
  obtain ⟨target, value, secret, host, atHost, -⟩ := handshake_eq_ok_iff.1 made
  have extended := parse?_urlFor_some accepted fits
  rw [show Http.Uri.parse? link.url = some uri from target, Option.map_some] at extended
  refine ⟨_, _, handshake_eq_ok_iff.2 ⟨extended, value, secret, host, ?_, rfl⟩⟩
  split
  · exact atHost
  · exact atHost

theorem verdict_of_unsupported (accepted : HubLinkSettings.urlProblems link.url = [])
    (bare : link.IsBare) (unsupported : version ∉ supportedProtocolVersions)
    (made : link.handshake identity (some version) = .ok (uri, request))
    (policy : HandshakePolicy) (tokens : TokenTable) (now : Nat) :
    policy.verdict tokens now request =
      .refuse (ApiError.unsupportedProtocol version).response := by
  have foreign : supportedProtocolVersions.contains version = false := by
    simpa using unsupported
  rw [HandshakePolicy.verdict, query_of_isBare accepted bare made,
    SocketParams.ofQuery?_parameter]
  simp only [Option.getD_some, foreign]
  rfl

/-- The version a client asks for reaches the hub exactly over a URL that has neither a query nor a
fragment of its own. Over such a URL nobody who asks for a version that the hub does not speak is
let in with another; over any other the hub cannot tell one version from the next. Whoever asks for
none gets what the URL says. -/
theorem conveys_iff (accepted : HubLinkSettings.urlProblems link.url = []) :
    (link.IsBare → ∀ version, link.Conveys (some version) (some (some version))) ∧
    (link.IsBare → ∀ version ∉ supportedProtocolVersions, ∀ identity uri request,
      link.handshake identity (some version) = .ok (uri, request) →
        ∀ policy tokens now, HandshakePolicy.verdict policy tokens now request =
          .refuse (ApiError.unsupportedProtocol version).response) ∧
    (¬link.IsBare → ∃ read, ∀ version, link.Conveys (some version) read) ∧
    (∀ identity uri request, link.handshake identity none = .ok (uri, request) →
      Http.Uri.parse? link.url = some uri ∧ request.query = uri.query ∧
      (∀ version, (link.urlFor (some version)).utf8ByteSize ≤ Http.Uri.maxLength →
        ∃ uri request, link.handshake identity (some version) = .ok (uri, request)) ∧
      ∀ version other, version ≠ other →
        (link.urlFor (some version)).utf8ByteSize ≤ Http.Uri.maxLength →
        (link.urlFor (some other)).utf8ByteSize ≤ Http.Uri.maxLength →
          (link.Conveys (some version) (some (some version)) ∧
            link.Conveys (some other) (some (some other)) ↔ link.IsBare)) := by
  refine ⟨conveys_of_isBare accepted, fun bare version unsupported identity uri request =>
    verdict_of_unsupported accepted bare unsupported, conveys_of_not_isBare accepted, ?_⟩
  intro identity uri request made
  obtain ⟨target, -, -, host, atHost, rfl⟩ := handshake_eq_ok_iff.1 made
  refine ⟨target, rfl, fun version fits => exists_handshake_some accepted fits made, ?_⟩
  intro version other apart fits fitsToo
  refine ⟨fun ⟨told, toldToo⟩ => ?_,
    fun bare => ⟨conveys_of_isBare accepted bare _, conveys_of_isBare accepted bare _⟩⟩
  refine Classical.byContradiction fun laden => apart ?_
  obtain ⟨read, reads⟩ := conveys_of_not_isBare accepted laden
  obtain ⟨first, asked, made₁⟩ := exists_handshake_some accepted fits made
  obtain ⟨second, askedToo, made₂⟩ := exists_handshake_some accepted fitsToo made
  have same : some (some version) = some (some other) := by
    rw [← told _ _ _ made₁, ← toldToo _ _ _ made₂, reads _ _ _ _ made₁, reads _ _ _ _ made₂]
  exact Option.some.inj (Option.some.inj same)

/-- A gateway's link to a hub of its own. -/
def ownHub : HubLink where
  url := "ws://hub/ws"
  proxySecret := "0123456789abcdef"

/-- A link to a hub that is told in the query whose events are wanted. -/
def tenantHub : HubLink where
  url := "ws://hub/ws?tenant=a"
  proxySecret := "0123456789abcdef"

/-- Where the handshake for version 99 goes over that link. -/
def tenantTarget : Http.Uri where
  scheme := some "ws"
  authority := some "hub"
  path := "/ws"
  query := some "tenant=a?protocol=99"

theorem exists_handshake_ownHub :
    ∃ uri request, ownHub.handshake (Gateway.reader "s") none = .ok (uri, request) := by
  have target : Http.Uri.parse? (ownHub.urlFor none) = some Gateway.hubAddress := by decide
  have legible : ownHub.Legible (Gateway.reader "s") :=
    ⟨Gateway.isPlain_secret (Gateway.reader "s"), (Gateway.names_reader_iff "s").2 (by decide)⟩
  exact ⟨_, exists_handshake target Gateway.host_hubAddress legible⟩

theorem conveys_iff_ownHub :
    HubLinkSettings.urlProblems ownHub.url = [] ∧ ownHub.IsBare ∧
      ownHub.Conveys (some 99) (some (some 99)) ∧
      (∃ uri request, ownHub.handshake (Gateway.reader "s") (some 99) = .ok (uri, request) ∧
        ∀ policy tokens now, HandshakePolicy.verdict policy tokens now request =
          .refuse (ApiError.unsupportedProtocol 99).response) ∧
      (ownHub.Conveys (some 1) (some (some 1)) ∧ ownHub.Conveys (some 99) (some (some 99)) ↔
        ownHub.IsBare) ∧
      HubLinkSettings.urlProblems tenantHub.url = [] ∧ ¬tenantHub.IsBare ∧
      ∃ read, ∀ version, tenantHub.Conveys (some version) read := by
  have accepted : HubLinkSettings.urlProblems ownHub.url = [] := by decide
  have acceptedToo : HubLinkSettings.urlProblems tenantHub.url = [] := by decide
  have bare : ownHub.IsBare := ⟨by decide, by decide⟩
  have laden : ¬tenantHub.IsBare := fun bare => absurd bare.1 (by decide)
  obtain ⟨conveyed, refused, -, asked⟩ := conveys_iff accepted
  obtain ⟨uri, request, made⟩ := exists_handshake_ownHub
  obtain ⟨-, -, exist, told⟩ := asked _ uri request made
  obtain ⟨uri, request, made⟩ := exist 99 (by decide)
  exact ⟨accepted, bare, conveyed bare 99,
    ⟨uri, request, made, refused bare 99 (by decide) _ uri request made⟩,
    told 1 99 (by decide) (by decide) (by decide), acceptedToo, laden,
    (conveys_iff acceptedToo).2.2.1 laden⟩

/-- The hub takes the client for one that asks for no version. -/
theorem default_for_tenant :
    HubLinkSettings.urlProblems tenantHub.url = [] ∧ 99 ∉ supportedProtocolVersions ∧
      ∃ uri request, tenantHub.handshake (Gateway.reader "s") (some 99) = .ok (uri, request) ∧
        (SocketParams.ofQuery? request.query).map SocketParams.protocol = some none ∧
        ∀ tokens now, Gateway.hubPolicy.verdict tokens now request =
          .welcome (Gateway.reader "s") defaultProtocolVersion := by
  have target : Http.Uri.parse? (tenantHub.urlFor (some 99)) = some tenantTarget := by decide
  have legible : tenantHub.Legible (Gateway.reader "s") :=
    ⟨Gateway.isPlain_secret (Gateway.reader "s"), (Gateway.names_reader_iff "s").2 (by decide)⟩
  have atHost : tenantTarget.host? = some "hub" := by decide
  obtain ⟨request, made⟩ := exists_handshake target atHost legible
  have headers := headers_of_handshake target atHost made
  have query : request.query = tenantTarget.query := by
    obtain ⟨-, -, -, host, -, rfl⟩ := handshake_eq_ok_iff.1 made
    rfl
  have read : SocketParams.ofQuery? tenantTarget.query = some {} := by decide
  refine ⟨by decide, by decide, tenantTarget, request, made, by rw [query, read]; rfl, ?_⟩
  intro tokens now
  have introduced : Gateway.hubPolicy.authenticate tokens now request {} =
      .ok (Gateway.reader "s") :=
    authenticate_eq_ok headers legible rfl (by decide) (Gateway.hasScope_reader "s") tokens now {}
  rw [HandshakePolicy.verdict, query, read]
  simp only [introduced, upgradeProblem?_of_handshake made]
  rfl

end HubLink

end EventHub
