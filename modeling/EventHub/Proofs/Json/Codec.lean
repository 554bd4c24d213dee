import EventHub.Auth.TokenTable
import EventHub.Hub.Protocol
import EventHub.Proofs.Auth.Header
import EventHub.Proofs.Json.Fields
import Mathlib.Logic.Function.Basic

/-!
What hub and client write to each other, and the entries of a token table. Each of these is read
back from its text.
-/

namespace EventHub

namespace Json

theorem natural?_natural (value : UInt64) : (natural value).natural? = some value :=
  rfl

theorem natural32?_natural (value : UInt32) : (natural value.toUInt64).natural32? = some value := by
  simp [natural32?, natural?_natural, value.toNat_lt]

end Json

namespace ClientCommand

variable (command : ClientCommand)

theorem exact_json : command.json.exact = true := by
  cases command <;> simp [json, Json.record, Json.exact, Json.exactMembers, Json.exact_texts]

theorem ofJson?_json : ofJson? command.json = some command := by
  have room : 0 < Json.depthLimit - 1 := by decide
  cases command <;>
    simp [ofJson?, json, Json.tagged?_record, Json.readable_texts room, Json.fields?_record,
      Fields.required?, Fields.default?, List.lookup_cons, Json.ignored?_record]

theorem parse_print : parse command.print = .ok command := by
  rw [parse, print, Json.parse?_print command.exact_json, Option.bind_some, ofJson?_json]

end ClientCommand

namespace ServerMessage

variable (message : ServerMessage)

theorem exact_json : message.json.exact = true := by
  cases message <;>
    simp [json, Json.record, Json.exact, Json.exactMembers, Json.exact_texts, Json.natural,
      Json.Number.isInteger]

theorem ofJson?_json : ofJson? message.json = some message := by
  have room : 0 < Json.depthLimit - 1 := by decide
  cases message <;>
    simp [ofJson?, json, Json.tagged?_record, Json.readable_texts room, Json.readable_natural,
      Json.readable, Json.fields?_record, Fields.required?, List.lookup_cons, Json.text?,
      Json.natural?_natural, Json.natural32?_natural]

theorem ofPayload?_toPayload : ofPayload? message.toPayload = some message := by
  rw [ofPayload?, toPayload, Json.parse?_print message.exact_json, Option.bind_some, ofJson?_json]

end ServerMessage

namespace TokenEntry

variable (entry : TokenEntry)

theorem exact_json : entry.json.exact = true := by
  obtain ⟨token, subject, scopes, clusters, expiresAt⟩ := entry
  cases expiresAt <;>
    simp [json, Json.record, Json.exact, Json.exactMembers, Json.exact_texts, Json.natural,
      Json.Number.isInteger]

theorem ofJson?_json : ofJson? entry.json = some entry := by
  have fields (known : List String) (members : List (String × Json)) :
      Json.format.fields? known (Json.record members) = (Json.record members).fields? known := rfl
  have texts (values : List String) : Json.format.texts? (Json.texts values) = some values :=
    Json.texts?_texts values
  have text (value : String) : Json.format.text? (Json.text value) = some value := rfl
  have never : Json.format.optional? Json.format.natural? .null = some none := rfl
  have expires (time : UInt64) :
      Json.format.optional? Json.format.natural? (Json.natural time) = some (some time) := rfl
  obtain ⟨token, subject, scopes, clusters, expiresAt⟩ := entry
  cases expiresAt <;>
    simp [ofJson?, decode?, json, fields, texts, text, never, expires, Json.fields?_record,
      fieldNames, Fields.required?, Fields.default?, List.lookup_cons]

theorem ofJson?_print : (Json.parse? entry.json.print).bind ofJson? = some entry := by
  rw [Json.parse?_print entry.exact_json, Option.bind_some, ofJson?_json]

end TokenEntry

/-- What can be read back is written in a way of its own. -/
theorem injective_of_reads {α β : Type} {write : α → String} (read : String → β) {whole : α → β}
    (faithful : Function.Injective whole) (reads : ∀ value, read (write value) = whole value) :
    Function.Injective write := by
  have composed : read ∘ write = whole := funext reads
  exact .of_comp (composed ▸ faithful)

/-- Commands, messages and token entries are read back from their texts, whatever names and numbers
they hold, so no two of a kind are written alike. -/
theorem wire_lossless :
    (∀ command : ClientCommand, ClientCommand.parse command.print = .ok command) ∧
    (∀ message : ServerMessage, ServerMessage.ofPayload? message.toPayload = some message) ∧
    (∀ entry : TokenEntry, (Json.parse? entry.json.print).bind TokenEntry.ofJson? = some entry) ∧
    Function.Injective ClientCommand.print ∧ Function.Injective ServerMessage.toPayload ∧
    Function.Injective fun entry : TokenEntry => entry.json.print := by
  refine ⟨ClientCommand.parse_print, ServerMessage.ofPayload?_toPayload, TokenEntry.ofJson?_print,
    ?_, ?_, ?_⟩
  · exact injective_of_reads ClientCommand.parse (fun _ _ => Except.ok.inj)
      ClientCommand.parse_print
  · exact injective_of_reads ServerMessage.ofPayload? (fun _ _ => Option.some.inj)
      ServerMessage.ofPayload?_toPayload
  · exact injective_of_reads (fun text => (Json.parse? text).bind TokenEntry.ofJson?)
      (fun _ _ => Option.some.inj) TokenEntry.ofJson?_print

end EventHub
