/-
HostedModules.Proofs.Session.Fields — what callers make of the fields that the
legacy channel answers with.

A question for names is answered by a list of texts, and a question for a
version or a hostname by a text.  The channel may answer with anything else.
Names are collected from whatever can be looped over, and a version or hostname
is passed on whatever it is, so that some answers of another shape are taken for
data of the documented kind.

* `Channel.FieldIs` — what a response has in a field
* `Channel.TellsNames`, `Channel.TellsText` — a response of the documented shape
* `Value.TakenFor` — a field of another shape that is taken for a set all the
  same
* `Value.texts_or_taken` — no other field is
* `Session.NamesReported`, `Session.TextReported` — what callers are to get
* `Session.answered` — what a caller is told once the channel has answered
* `Session.fields_reported` — it is what callers are to get, for all bytes
-/
import HostedModules.Proofs.Channel.Readable
import HostedModules.Proofs.Session.Waiting
import HostedModules.Proofs.Value.Members
import HostedModules.Proofs.Wire.RoundTrip

namespace HostedModules

open Future

/-! ## Shapes -/

namespace Value

/-- The value is no list of texts, and is taken for a set with these elements
all the same. -/
inductive TakenFor : Value → List Value → Prop
  /-- A text is taken for its characters. -/
  | characters (s : String) :
      TakenFor (.text s) (s.toList.map fun c => .text c.toString)
  /-- A record is taken for its keys. -/
  | keys (fields : List (String × Value)) :
      TakenFor (.record fields) (fields.map fun (key, _) => .text key)
  /-- A list is taken for its elements, though one of them is no text, unless
  one is a list or a record. -/
  | elements {items : List Value} (hplain : ∀ v ∈ items, v.settable = true)
      (hother : ∃ v ∈ items, ∀ s, v ≠ .text s) :
      TakenFor (.list items) items

theorem settable_of_texts {names : List String} :
    ∀ v ∈ names.map Value.text, v.settable = true := by
  simp [settable]

theorem TakenFor.elements_eq {v : Value} {items : List Value}
    (h : v.TakenFor items) :
    v.elements = .ok items ∧ ∀ w ∈ items, w.settable = true := by
  cases h with
  | characters s => exact ⟨rfl, by simp [settable]⟩
  | keys fields =>
      refine ⟨rfl, fun w hw => ?_⟩
      obtain ⟨field, -, rfl⟩ := List.mem_map.1 hw
      rfl
  | elements hplain hother => exact ⟨rfl, hplain⟩

/-- A list has an element that is no text, or is a list of texts. -/
theorem other_or_texts : ∀ items : List Value,
    (∃ v ∈ items, ∀ s, v ≠ .text s) ∨ ∃ names : List String,
      items = names.map .text
  | [] => .inr ⟨[], rfl⟩
  | v :: rest => by
      rcases other_or_texts rest with ⟨w, hmem, hother⟩ | ⟨names, rfl⟩
      · exact .inl ⟨w, List.mem_cons_of_mem _ hmem, hother⟩
      · by_cases htext : ∃ s, v = .text s
        · obtain ⟨s, rfl⟩ := htext
          exact .inr ⟨s :: names, rfl⟩
        · exact .inl ⟨v, List.mem_cons_self, fun s hs => htext ⟨s, hs⟩⟩

/-- What can be looped over, and has elements that may be members, is a list of
texts or taken for a set. -/
theorem texts_or_taken {v : Value} {items : List Value}
    (h : v.elements = .ok items) (hsettable : ∀ w ∈ items, w.settable = true) :
    (∃ names : List String, v = .list (names.map .text)) ∨ v.TakenFor items := by
  cases v with
  | text s =>
      obtain rfl := Except.ok.inj h
      exact .inr (.characters s)
  | record fields =>
      obtain rfl := Except.ok.inj h
      exact .inr (.keys fields)
  | list values =>
      obtain rfl := Except.ok.inj h
      rcases other_or_texts values with hother | ⟨names, rfl⟩
      · exact .inr (.elements hsettable hother)
      · exact .inl ⟨names, rfl⟩
  | _ => exact nomatch h

theorem elements_eq_error {v : Value} {failure : Failure}
    (h : v.elements = .error failure) :
    failure = Failure.wrongType := by
  cases v with
  | list items => exact nomatch h
  | text s => exact nomatch h
  | record fields => exact nomatch h
  | _ => exact (Except.error.inj h).symm

end Value

/-! ## Responses -/

namespace Channel

/-- The bytes are a response with this in the field; nothing if it has no such
field. -/
def FieldIs (key : String) (bytes : List UInt8) (field : Option Value) : Prop :=
  ∃ response, decodeResponse bytes = .ok response ∧
    Value.find? key response = field

theorem fieldIs_iff {key : String} {bytes : List UInt8}
    {response : List (String × Value)} {field : Option Value}
    (h : decodeResponse bytes = .ok response) :
    FieldIs key bytes field ↔ Value.find? key response = field := by
  simp [FieldIs, h]

/-- The response lists these names in the field, or has no such field, which
lists none. -/
inductive TellsNames (key : String) (bytes : List UInt8) : List String → Prop
  | absent (h : FieldIs key bytes none) : TellsNames key bytes []
  | told {names : List String}
      (h : FieldIs key bytes (some (.list (names.map .text)))) :
      TellsNames key bytes names

/-- The response has this text in the field, or has no such field, which is an
empty text. -/
inductive TellsText (key : String) (bytes : List UInt8) : String → Prop
  | absent (h : FieldIs key bytes none) : TellsText key bytes ""
  | told {s : String} (h : FieldIs key bytes (some (.text s))) :
      TellsText key bytes s

namespace Command

/-- The set in a field that can be looped over, if its elements may be
members. -/
theorem membersIn_eq_ok {key : String} {response : List (String × Value)}
    {items : List Value}
    (h : ((Value.find? key response).getD (.list [])).elements = .ok items)
    (hsettable : ∀ v ∈ items, v.settable = true) :
    ∃ members, membersIn key response = .ok members ∧
      Value.Collects items members := by
  obtain ⟨members, hmembers, hcollects⟩ := Value.distinct_collects hsettable
  refine ⟨members, ?_, hcollects⟩
  show Except.bind _ _ = _
  rw [h]
  exact hmembers

/-- There is no set in a field that cannot be looped over, or has an element
that may be no member. -/
theorem membersIn_eq_error {key : String} {response : List (String × Value)}
    (h : ∀ items, ((Value.find? key response).getD (.list [])).elements =
      .ok items → ¬ ∀ v ∈ items, v.settable = true) :
    membersIn key response = .error Failure.wrongType := by
  show Except.bind _ _ = _
  cases helements : ((Value.find? key response).getD (.list [])).elements with
  | error failure =>
      exact congrArg Except.error (Value.elements_eq_error helements)
  | ok items => exact Value.distinct_refused (h items helements)

end Command
end Channel

/-! ## Callers -/

namespace Session

open Channel

/-- What a caller is to get that asks for the names in a field, when the channel
answers with these bytes.  Names that are listed there are reported as they are
listed.  A field of another shape that can be taken for a set is.  All other
answers are unexpected failures. -/
structure NamesReported (key : String) (bytes : List UInt8)
    (report : Except Failure Report) : Prop where
  told : ∀ names, TellsNames key bytes names →
    ∃ members, report = .ok (.answer (.members members)) ∧ members.Nodup ∧
      ∀ v, v ∈ members ↔ ∃ name ∈ names, v = .text name
  mistaken : ∀ v items, FieldIs key bytes (some v) → v.TakenFor items →
    ∃ members, report = .ok (.answer (.members members)) ∧
      Value.Collects items members
  refused : (∀ names, ¬ TellsNames key bytes names) →
    (∀ v items, FieldIs key bytes (some v) → ¬ v.TakenFor items) →
    ∃ raised, report = .error raised ∧ raised.kind = .unexpected

/-- What a caller is to get that asks for the text in a field, when the channel
answers with these bytes.  A text is reported as it is, and so is every other
value.  Answers that cannot be read are unexpected failures. -/
structure TextReported (key : String) (bytes : List UInt8)
    (report : Except Failure Report) : Prop where
  told : ∀ s, TellsText key bytes s → report = .ok (.answer (.value (.text s)))
  mistaken : ∀ v, FieldIs key bytes (some v) → (∀ s, v ≠ .text s) →
    report = .ok (.answer (.value v))
  refused : (∀ field, ¬ FieldIs key bytes field) → ∃ raised,
    report = .error raised ∧ raised.kind = .unexpected

/-- What a caller is to get that asks the channel for names, a version or a
hostname. -/
def FieldReported (bytes : List UInt8) (report : Except Failure Report) :
    Operation → Prop
  | .modules => NamesReported "module" bytes report
  | .versions _ => NamesReported "version" bytes report
  | .defaultVersion _ => TextReported "version" bytes report
  | .versionHostname _ => TextReported "hostname" bytes report
  | .instanceHostname _ _ => TextReported "hostname" bytes report
  | _ => True

/-- What a caller is told that waits for an operation, once the channel has
answered it with these bytes. -/
def answered (operation : Operation) (bytes : List UInt8) :
    Except Failure Report :=
  (Store.observe
    (Future.conclude operation.stages (.ok (.value (.bytes bytes))))).map .answer

section Answered

variable {operation : Operation} {key : String} {bytes : List UInt8}
    {response : List (String × Value)}

/-- An answer that cannot be read is an unexpected failure. -/
theorem answered_unread {failure : Failure}
    (h : decodeResponse bytes = .error failure) :
    ∃ raised, answered operation bytes = .error raised ∧
      raised.kind = .unexpected := by
  rw [answered, operation.conclude_unread h]
  rcases decodeResponse_eq_error h with ⟨rfl, -⟩ | ⟨rfl, -⟩
  · exact ⟨_, rfl, rfl⟩
  · exact ⟨_, rfl, rfl⟩

/-- What the fields of an answer mean is what the caller is told. -/
theorem answered_converted {answer : Answer}
    (hdecode : decodeResponse bytes = .ok response)
    (h : operation.command.convert response = .ok answer) :
    answered operation bytes = .ok (.answer answer) := by
  have hanswer : operation.command.convertAnswer (.value (.bytes bytes)) =
      .ok answer := by
    show (decodeResponse bytes).bind _ = _
    rw [hdecode]
    exact h
  rw [answered, observe_converted operation hanswer]
  rfl

/-- Fields without a meaning are an unexpected failure. -/
theorem answered_wrongType (hdecode : decodeResponse bytes = .ok response)
    (h : operation.command.convert response = .error Failure.wrongType) :
    ∃ raised, answered operation bytes = .error raised ∧
      raised.kind = .unexpected := by
  have hanswer : operation.command.convertAnswer (.value (.bytes bytes)) =
      .error Failure.wrongType := by
    show (decodeResponse bytes).bind _ = _
    rw [hdecode]
    exact h
  obtain ⟨raised, hraised, hkind⟩ :=
    observe_unconverted operation hanswer (fun _ h => nomatch h)
      (.inr (.inl rfl))
  exact ⟨raised, by rw [answered, hraised]; rfl, hkind⟩

/-- A caller that asks for names is told of the set in the field, if what it has
there can be looped over and its elements may be members. -/
theorem answered_set
    (hconvert : operation.command.convert response =
      (Command.membersIn key response).map .members)
    (hdecode : decodeResponse bytes = .ok response) {items : List Value}
    (h : ((Value.find? key response).getD (.list [])).elements = .ok items)
    (hsettable : ∀ v ∈ items, v.settable = true) :
    ∃ members, answered operation bytes = .ok (.answer (.members members)) ∧
      Value.Collects items members := by
  obtain ⟨members, hmembers, hcollects⟩ := Command.membersIn_eq_ok h hsettable
  rw [hmembers] at hconvert
  exact ⟨members, answered_converted hdecode hconvert, hcollects⟩

/-- A caller that asks for names is told of an unexpected failure otherwise. -/
theorem answered_no_set
    (hconvert : operation.command.convert response =
      (Command.membersIn key response).map .members)
    (hdecode : decodeResponse bytes = .ok response)
    (h : ∀ items, ((Value.find? key response).getD (.list [])).elements =
      .ok items → ¬ ∀ v ∈ items, v.settable = true) :
    ∃ raised, answered operation bytes = .error raised ∧
      raised.kind = .unexpected := by
  rw [Command.membersIn_eq_error h] at hconvert
  exact answered_wrongType hdecode hconvert

/-- A caller that asks for names is told of the names, of a set that the field
is taken for, or of a failure. -/
theorem namesReported_answered
    (hconvert : ∀ response, operation.command.convert response =
      (Command.membersIn key response).map .members) :
    NamesReported key bytes (answered operation bytes) := by
  cases hdecode : decodeResponse bytes with
  | error failure =>
      have hnone : ∀ field, ¬ FieldIs key bytes field := by
        simp [FieldIs, hdecode]
      refine ⟨?_, fun v items hfield => absurd hfield (hnone _),
        fun _ _ => answered_unread hdecode⟩
      rintro names (hfield | hfield)
      · exact absurd hfield (hnone _)
      · exact absurd hfield (hnone _)
  | ok response =>
      have hfield : ∀ field, FieldIs key bytes field ↔
          Value.find? key response = field := fun _ => fieldIs_iff hdecode
      refine ⟨fun names htells => ?_, fun v items hv htaken => ?_,
        fun huntold huntaken => ?_⟩
      · have helements : ((Value.find? key response).getD (.list [])).elements =
            .ok (names.map .text) := by
          rcases htells with hv | hv
          · rw [(hfield _).1 hv]
            rfl
          · rw [(hfield _).1 hv]
            rfl
        obtain ⟨members, hreport, hcollects⟩ :=
          answered_set (hconvert response) hdecode helements
            Value.settable_of_texts
        exact ⟨members, hreport, hcollects.texts⟩
      · obtain ⟨helements, hsettable⟩ := htaken.elements_eq
        rw [← Option.getD_some (a := v) (b := .list []), ← (hfield _).1 hv]
          at helements
        exact answered_set (hconvert response) hdecode helements hsettable
      · refine answered_no_set (hconvert response) hdecode
          fun items helements hsettable => ?_
        cases hv : Value.find? key response with
        | none => exact huntold [] (.absent ((hfield _).2 hv))
        | some v =>
            rw [hv] at helements
            rcases Value.texts_or_taken helements hsettable with ⟨names,
              rfl⟩ | htaken
            · exact huntold names (.told ((hfield _).2 hv))
            · exact huntaken v items ((hfield _).2 hv) htaken

/-- A caller that asks for a text is told of the field, whatever it is. -/
theorem textReported_answered
    (hconvert : ∀ response, operation.command.convert response =
      .ok (.value (Command.textIn key response))) :
    TextReported key bytes (answered operation bytes) := by
  cases hdecode : decodeResponse bytes with
  | error failure =>
      have hnone : ∀ field, ¬ FieldIs key bytes field := by
        simp [FieldIs, hdecode]
      refine ⟨?_, fun v hfield => absurd hfield (hnone _),
        fun _ => answered_unread hdecode⟩
      rintro s (hfield | hfield)
      · exact absurd hfield (hnone _)
      · exact absurd hfield (hnone _)
  | ok response =>
      have hfield : ∀ field, FieldIs key bytes field ↔
          Value.find? key response = field := fun _ => fieldIs_iff hdecode
      have hanswer : answered operation bytes =
          .ok (.answer (.value ((Value.find? key response).getD (.text "")))) :=
        answered_converted hdecode (hconvert response)
      rw [hanswer]
      refine ⟨fun s htells => ?_, fun v hv _ => ?_,
        fun hnone => absurd ((hfield _).2 rfl) (hnone _)⟩
      · rcases htells with hv | hv
        · rw [(hfield _).1 hv]
          rfl
        · rw [(hfield _).1 hv]
          rfl
      · rw [(hfield _).1 hv]
        rfl

/-- Whoever waits for an answer of the channel is told what there is to be
told. -/
theorem fieldReported_answered (operation : Operation) (bytes : List UInt8) :
    FieldReported bytes (answered operation bytes) operation := by
  cases operation with
  | modules => exact namesReported_answered fun _ => rfl
  | versions moduleName => exact namesReported_answered fun _ => rfl
  | defaultVersion moduleName => exact textReported_answered fun _ => rfl
  | versionHostname target => exact textReported_answered fun _ => rfl
  | instanceHostname number target => exact textReported_answered fun _ => rfl
  | _ => exact True.intro

end Answered

/-- **What callers make of the fields of an answer.**  Take a call for which the
channel handed out a future, in any process and after any steps.  A caller that
makes the call and waits gets what `FieldReported` says for the bytes that the
channel answers with at once, whatever the limit, and a caller that waits for
the future gets it for the bytes that the channel has answered with since.
Names that are listed, and a version or hostname that is a text, are reported
just as the answer has them, and none if the field is absent.  But a text or a
record in place of the list, or a list with other elements than texts, may be
taken for a set, and any value at all for a version or a hostname. -/
theorem fields_reported (service : Service) (environment : Environment)
    (override : Option Bool) (earlier later : List Step) (call : Call)
    (backends : Backends) (source : Nat)
    (horderly : Orderly service (initial environment override)
      (earlier ++ .launch call backends :: later))
    (hsource :
      (take service (after service (initial environment override) earlier)
        (.launch call backends)).source = some source) :
    let before := after service (initial environment override) earlier
    let now := after service (initial environment override)
      (earlier ++ .launch call backends :: later)
    ∃ operation future,
      call.check = .ok operation ∧
      (take service before (.launch call backends)).report =
        .ok (.future future) ∧
      (∀ bytes limit, backends.reaction = .answers bytes →
        FieldReported bytes
          (take service before (.call call limit backends)).report operation) ∧
      ∀ bytes limit,
        now.store.outcome? source = some (.ok (.value (.bytes bytes))) →
        FieldReported bytes (take service now (.wait future limit)).report
          operation := by
  intro before now
  obtain ⟨hearlier, hlater⟩ := orderly_append.1 horderly
  have hbefore : Steady before.store := steady_after hearlier
  have hnow : Steady now.store := steady_after horderly
  obtain ⟨operation, rfl, hreaches, hmakes, hcarries⟩ :=
    carries_of_source hbefore hsource hlater.2
  rw [← after_append] at hcarries
  refine ⟨operation, _, hreaches.check, hmakes.launched, ?_, ?_⟩
  · intro bytes limit hreaction
    rw [hmakes.called (by rw [hreaction]; rfl)]
    exact fieldReported_answered operation bytes
  · intro bytes limit hended
    show FieldReported bytes (awaited limit now.store _) operation
    rw [hcarries.awaited_ended hnow hended]
    exact fieldReported_answered operation bytes

/-- A response with the name of one module in place of a list of names. -/
def bareName : List UInt8 := Wire.encodeRecord [("module", .text "web")]

theorem decode_bareName :
    decodeResponse bareName = .ok [("module", .text "web")] := by
  have hkeyed : (Wire.Datum.record [("module", .text "web")]).Keyed :=
    ⟨by decide, True.intro, True.intro⟩
  have hdecoded :=
    Wire.decodeRecord_encodeRecord hkeyed (by decide) (by decide +kernel)
  rw [decodeResponse, bareName, hdecoded]
  rfl

/-- A channel that answers with the bare name. -/
def bareNameBackends : Backends := ⟨.error .wrongType, [], .answers bareName⟩

theorem makes_bareName :
    Makes (Dispatch.startCall shop (fresh.circumstances bareNameBackends) .modules
      fresh.store) fresh.store .modules bareNameBackends.reaction :=
  makes_first .modules bareNameBackends rfl ⟨_, rfl⟩ rfl

/-- A caller that asks for all modules gets the characters of the one name. -/
theorem fields_reported_bare_name :
    Orderly shop fresh [.launch .modules bareNameBackends] ∧
      (take shop fresh (.launch .modules bareNameBackends)).source = some 0 ∧
      ∃ members,
        (take shop fresh (.call .modules .null bareNameBackends)).report =
          .ok (.answer (.members members)) ∧
            Value.Collects [.text "w", .text "e", .text "b"] members := by
  have horderly : Orderly shop fresh [.launch .modules bareNameBackends] :=
    ⟨True.intro, True.intro⟩
  have hsource : (take shop fresh (.launch .modules bareNameBackends)).source = some 0 :=
    makes_bareName.source
  obtain ⟨operation, future, hcheck, -, hcalled, -⟩ :=
    fields_reported shop ⟨[]⟩ none [] [] .modules bareNameBackends 0 horderly hsource
  obtain rfl : Operation.modules = operation := Except.ok.inj hcheck
  have hreported : NamesReported "module" bareName _ :=
    hcalled bareName .null rfl
  exact ⟨horderly, hsource,
    hreported.mistaken (.text "web") _ ⟨_, decode_bareName, rfl⟩
    (.characters "web")⟩

/-- Not every answer that a caller gets to the question for all modules is the
names that the response lists. -/
theorem bare_name_taken_apart : ¬ ∀ bytes,
    (∃ names, TellsNames "module" bytes names) ∨
      ∃ raised,
        (take shop fresh
          (.call .modules .null ⟨.error .wrongType, [], .answers bytes⟩)).report =
        .error raised ∧ raised.kind = .unexpected := by
  intro hall
  rcases hall bareName with ⟨names, hfield | hfield⟩ | ⟨raised, hraised, -⟩
  · exact nomatch (fieldIs_iff decode_bareName).1 hfield
  · exact nomatch (fieldIs_iff decode_bareName).1 hfield
  · have hreported : NamesReported "module" bareName _ :=
      fieldReported_answered .modules bareName
    obtain ⟨members, hmembers, -⟩ :=
      hreported.mistaken (.text "web") _ ⟨_, decode_bareName, rfl⟩
        (.characters "web")
    exact nomatch hraised.symm.trans
      ((makes_bareName.called rfl .null).trans hmembers)

end Session
end HostedModules
