import SatelliteWindows.Activity
import SatelliteWindows.Message
import SatelliteWindows.Proofs.Wire.Reading
import SatelliteWindows.Settings
import SatelliteWindows.Window

/-!
# What is written is read back

Messages, activity, platforms, sizes and settings are written as JSON. Each type is taken in turn:
its values are read back from what is written of them, as long as objects in payloads name their
fields once and counts fit into 64 bits. Whatever is read has these properties already, in whichever
form it comes: as a record with other fields between its own, as a list, or with fields left out. So
it is written and read once more without loss.

Null is written both for parameters that are null and for parameters that are not given. It is read
as the latter.
-/

namespace SatelliteWindows

/-! ## Texts and numbers -/

/-- A text is read back. -/
theorem Datum.string_toDatum (s : String) : Datum.string (Payload.text s).toDatum = .ok s := rfl

/-- An integer is read back as such if it is in range. -/
theorem Datum.whole_int {lo hi i : Int} (h : lo ≤ i ∧ i ≤ hi) :
    Datum.whole lo hi (.int i) = .ok i := if_pos h

/-- A dimension is read back. -/
theorem Size.dimension_int (n : UInt32) : Size.dimension (.int n.toNat) = .ok n := by
  have hrange : (0 : Int) ≤ n.toNat ∧ (n.toNat : Int) ≤ UInt32.size - 1 := by
    have := n.toNat_lt_size
    omega
  unfold Size.dimension
  rw [Datum.whole_int hrange]
  show Except.ok (UInt32.ofNat n.toNat) = _
  rw [UInt32.ofNat_toNat]

/-- A coordinate is read back. -/
theorem Point.coordinate_int (i : Int32) : Point.coordinate (.int i.toInt) = .ok i := by
  have hrange : Int32.minValue.toInt ≤ i.toInt ∧ i.toInt ≤ Int32.maxValue.toInt :=
    ⟨i.minValue_le_toInt, i.toInt_le⟩
  unfold Point.coordinate
  rw [Datum.whole_int hrange]
  show Except.ok (Int32.ofInt i.toInt) = _
  rw [Int32.ofInt_toInt]

/-- A count is read back if it has no more than 64 bits. -/
theorem Datum.count_int {n : Nat} (h : n < UInt64.size) : Datum.count (.int n) = .ok n := by
  have hrange : (0 : Int) ≤ n ∧ (n : Int) ≤ UInt64.size - 1 := by omega
  unfold Datum.count
  rw [Datum.whole_int hrange]
  rfl

/-- A word is read back. -/
theorem CoordinatorSettings.word_int (w : UInt64) :
    CoordinatorSettings.word (.int w.toNat) = .ok w := by
  unfold CoordinatorSettings.word
  rw [Datum.count_int w.toNat_lt_size]
  show Except.ok (UInt64.ofNat w.toNat) = _
  rw [UInt64.ofNat_toNat]

/-! ## Sizes, positions and requests for windows -/

/-- A size is read back as it was written. -/
theorem Size.decode_encode (s : Size) : Size.decode s.encode.toDatum = .ok s := by
  unfold Size.decode Size.encode
  rw [Datum.fields_toDatum (by simp) (by simp)]
  show (do return Size.mk (← Size.dimension _) (← Size.dimension _)) = _
  simp only [Payload.toDatum, Size.dimension_int]
  rfl

/-- So is a point. -/
theorem Point.decode_encode (p : Point) : Point.decode p.encode.toDatum = .ok p := by
  unfold Point.decode Point.encode
  rw [Datum.fields_toDatum (by simp) (by simp)]
  show (do return Point.mk (← Point.coordinate _) (← Point.coordinate _)) = _
  simp only [Payload.toDatum, Point.coordinate_int]
  rfl

/-- So is a geometry. -/
theorem Geometry.decode_encode (g : Geometry) : Geometry.decode g.encode.toDatum = .ok g := by
  unfold Geometry.decode Geometry.encode
  rw [Datum.fields_toDatum (by simp) (by simp)]
  show (do return Geometry.mk (← Size.decode _) (← Point.decode _)) = _
  simp only [Size.decode_encode, Point.decode_encode]
  rfl

/-- So is a request for a window. -/
theorem OpenRequest.decode_encode (r : OpenRequest) :
    OpenRequest.decode r.encode.toDatum = .ok r := by
  obtain ⟨name, windowName, size, position⟩ := r
  unfold OpenRequest.decode OpenRequest.encode
  cases position with
  | none =>
    rw [Datum.fields_toDatum (by simp) (by simp)]
    show (do return OpenRequest.mk name windowName (← Size.decode size.encode.toDatum) none) = _
    rw [Size.decode_encode]
    rfl
  | some p =>
    rw [Datum.fields_toDatum (by simp) (by simp)]
    show (do
      let size ← Size.decode size.encode.toDatum
      let position ← (do return some (← Point.decode p.encode.toDatum))
      return OpenRequest.mk name windowName size position) = _
    rw [Size.decode_encode, Point.decode_encode]
    rfl

/-! ## Platforms -/

/-- So is an engine. -/
theorem Engine.decode_encode (e : Engine) : Engine.decode e.encode.toDatum = .ok e := by
  cases e <;> rfl

/-- So is an engine that stands in a platform. -/
theorem Engine.decodeNested_encode (e : Engine) :
    Engine.decodeNested e.encode.toDatum = .ok e := e.decode_encode

/-- So is a platform. -/
theorem Platform.decode_encode (p : Platform) : Platform.decode p.encode.toDatum = .ok p := by
  unfold Platform.decode Platform.encode
  cases p with
  | nativeShell =>
    rw [Datum.tagged_toDatum _ (by simp [encodeFields])]
    rfl
  | browser engine =>
    rw [Datum.tagged_toDatum _ (by simp [encodeFields])]
    exact read_singleOr "engine" .other browser engine.decodeNested_encode

/-! ## Settings of the coordinator -/

/-- So are the settings of a coordinator. -/
theorem CoordinatorSettings.decode_encode (s : CoordinatorSettings) :
    CoordinatorSettings.decode s.encode.toDatum = .ok s := by
  obtain ⟨channelBuffer, busCapacity, openTimeoutSecs⟩ := s
  unfold CoordinatorSettings.decode CoordinatorSettings.encode encodeFields
  cases openTimeoutSecs with
  | none =>
    rw [Datum.fields_toDatum (by simp [fieldNames]) (by simp)]
    show (do
      let channelBuffer ← word (.int channelBuffer.toNat)
      let busCapacity ← word (.int busCapacity.toNat)
      return CoordinatorSettings.mk channelBuffer busCapacity none) = _
    rw [word_int, word_int]
    rfl
  | some secs =>
    rw [Datum.fields_toDatum (by simp [fieldNames]) (by simp)]
    show (do
      let channelBuffer ← word (.int channelBuffer.toNat)
      let busCapacity ← word (.int busCapacity.toNat)
      let openTimeoutSecs ← (do return some (← word (.int secs.toNat)))
      return CoordinatorSettings.mk channelBuffer busCapacity openTimeoutSecs) = _
    rw [word_int, word_int, word_int]
    rfl

/-! ## Commands, events and messages -/

/-- So is a command. -/
theorem Command.decode_encode (c : Command) : Command.decode c.encode.toDatum = .ok c :=
  read_single "id" Command.mk (Datum.string_toDatum c.id)

/-- So is an event, if its data are those of a document. -/
theorem Event.decode_encode {e : Event} (h : e.data.Proper) :
    Event.decode e.encode.toDatum = .ok e := by
  unfold Event.decode Event.encode
  rw [Datum.fields_toDatum (by simp) (by simp)]
  show (do return Event.mk e.eventType (← Datum.payload e.data.toDatum)) = _
  rw [Datum.payload_toDatum e.data h]
  rfl

/-- The data of an event that was read are those of a document. -/
theorem Event.proper_of_decode {d : Datum} {e : Event} (h : Event.decode d = .ok e) :
    e.data.Proper := by
  unfold Event.decode at h
  simp only [bind_eq_ok] at h
  obtain ⟨_, -, _, -, data, hdata, heq⟩ := h
  cases heq
  rcases of_fieldOr hdata with rfl | ⟨d, -, hread⟩
  · trivial
  · exact Datum.proper_of_payload d hread

namespace Message

/-- The tag of a message is the name of its operation. -/
theorem tag_eq_operation (m : Message) : m.tag = m.operation := by
  unfold tag
  cases m <;> dsimp only [alternative, operation] <;> decide +kernel

/-- Whether what a message carries names each field of each object once. -/
def Proper : Message → Prop
  | setSession p | setStartup p => p.Proper
  | reactivated params => ∀ p ∈ params, p.Proper
  | event e => e.data.Proper
  | pendingReactivate | command _ => True

/-- The message that comes back: parameters that are null are taken for none. -/
def readBack : Message → Message
  | reactivated (some .null) => reactivated none
  | m => m

/-- Only the message that brings no params to the front is read back as another one. -/
theorem readBack_eq_self {m : Message} (h : m ≠ reactivated (some .null)) : m.readBack = m := by
  unfold readBack
  split
  · exact absurd rfl h
  · rfl

/-- All other messages are read back as they were written. -/
theorem decode_encode {m : Message} (h : m.Proper) : decode m.encode.toDatum = .ok m.readBack := by
  unfold decode encode
  rw [tag_eq_operation, Datum.tagged_toDatum _ (by cases m <;> simp [encodeFields])]
  cases m with
  | setSession p => exact read_single "snapshot" setSession (Datum.payload_toDatum p h)
  | setStartup p => exact read_single "params" setStartup (Datum.payload_toDatum p h)
  | reactivated params =>
    have hparams : (params.getD .null).Proper := by
      cases params with
      | none => trivial
      | some p => exact h p rfl
    have hread := read_singleOr "params" none reactivated (Datum.nullable_toDatum hparams)
    refine hread.trans (congrArg Except.ok ?_)
    cases params with
    | none => rfl
    | some p => cases p <;> rfl
  | pendingReactivate => rfl
  | event e => exact read_single "event" event (Event.decode_encode h)
  | command id => exact read_single "command-id" command (Datum.string_toDatum id)

/-- Messages that are read are proper, and their parameters are not null if they are read from
JSON. -/
theorem proper_of_decode {d : Datum} {m : Message} (h : decode d = .ok m) :
    m.Proper ∧ (d.IsJson → m ≠ reactivated (some .null)) := by
  unfold decode at h
  obtain ⟨⟨op, body⟩, htagged, h⟩ := bind_eq_ok.mp h
  have hpayload : ∀ {name : String} {fields : List (String × Datum)} {p : Payload},
      requiredField Datum.payload name fields = .ok p → p.Proper := by
    intro name fields p hread
    obtain ⟨d, -, hread⟩ := of_requiredField hread
    exact Datum.proper_of_payload d hread
  dsimp only at h
  split at h
  · simp only [bind_eq_ok] at h
    obtain ⟨_, -, p, hp, heq⟩ := h
    cases heq
    exact ⟨hpayload hp, fun _ => nofun⟩
  · simp only [bind_eq_ok] at h
    obtain ⟨_, -, p, hp, heq⟩ := h
    cases heq
    exact ⟨hpayload hp, fun _ => nofun⟩
  · simp only [bind_eq_ok] at h
    obtain ⟨fields, hfields, params, hparams, heq⟩ := h
    cases heq
    constructor
    · rintro p rfl
      obtain ⟨d, -, -, hread⟩ := of_optionalField hparams
      exact Datum.proper_of_payload d hread
    · rintro hjson hnull
      cases hnull
      obtain ⟨d, hd, hne, hread⟩ := of_optionalField hparams
      have hbody : body.IsJson := Datum.isJson_of_tagged htagged hjson
      exact hne (Datum.eq_null_of_payload (Datum.isJson_of_fields hfields hbody _ hd) hread)
  · simp only [bind_eq_ok] at h
    obtain ⟨_, -, heq⟩ := h
    cases heq
    exact ⟨trivial, fun _ => nofun⟩
  · simp only [bind_eq_ok] at h
    obtain ⟨_, -, e, he, heq⟩ := h
    cases heq
    obtain ⟨d, -, hread⟩ := of_requiredField he
    exact ⟨Event.proper_of_decode hread, fun _ => nofun⟩
  · simp only [bind_eq_ok] at h
    obtain ⟨_, -, id, -, heq⟩ := h
    cases heq
    exact ⟨trivial, fun _ => nofun⟩
  · cases h

end Message

/-! ## Activity -/

namespace Activity

/-- The tag of an activity is the name of its kind. -/
theorem tag_eq_kind (a : Activity) : a.tag = a.kind := by
  cases a <;> rfl

/-- Whether what an activity counts is counted with 64 bits. -/
def InRange : Activity → Prop
  | flushed _ n | allClosed n | openTimedOut _ n => n < UInt64.size
  | _ => True

/-- Activity that has a name only is read back. -/
theorem decodeNamed_toDatum (make : String → Activity) (name : String) :
    decodeNamed make (Payload.record [("name", .text name)]).toDatum = .ok (make name) :=
  read_single "name" make (Datum.string_toDatum name)

/-- So is activity that has a name and a window. -/
theorem decodeWindow_toDatum (make : String → String → Activity) (name window : String) :
    decodeWindow make (Payload.record [("name", .text name), ("window_id", .text window)]).toDatum =
      .ok (make name window) := by
  unfold decodeWindow
  rw [Datum.fields_toDatum (by simp) (by simp)]
  rfl

/-- So is activity that has a name and a number. -/
theorem read_counted (field : String) (hne : field ≠ "name") (make : String → Nat → Activity)
    (name : String) {n : Nat} (h : n < UInt64.size) :
    (do
      let fields ← (Payload.record [("name", .text name), (field, .int n)]).toDatum.fields
        ["name", field]
      let name ← requiredField Datum.string "name" fields
      return make name (← requiredField Datum.count field fields)) = .ok (make name n) := by
  have hcount : requiredField Datum.count field
      [("name", (Payload.text name).toDatum), (field, (Payload.int n).toDatum)] = .ok n := by
    unfold requiredField
    rw [List.lookup_cons, beq_false_of_ne hne, List.lookup_cons, beq_self_eq_true]
    exact Datum.count_int h
  rw [Datum.fields_toDatum (by simp) (by simpa using hne.symm)]
  show (do return make name (← requiredField Datum.count field
    [("name", (Payload.text name).toDatum), (field, (Payload.int n).toDatum)])) = _
  rw [hcount]
  rfl

/-- Activity is read back as it was written, if its numbers are in range. -/
theorem decode_encode {a : Activity} (h : a.InRange) : decode a.encode.toDatum = .ok a := by
  unfold decode encode
  rw [tag_eq_kind, Datum.tagged_toDatum _ (by cases a <;> simp [encodeFields])]
  cases a with
  | opening name width height =>
    show (do
      let fields ← (Payload.record (encodeFields (opening name width height))).toDatum.fields
        ["name", "width", "height"]
      let name ← requiredField Datum.string "name" fields
      let width ← requiredField Size.dimension "width" fields
      return opening name width (← requiredField Size.dimension "height" fields)) = _
    rw [Datum.fields_toDatum (by simp [encodeFields]) (by simp [encodeFields])]
    show (do
      let width ← Size.dimension (.int width.toNat)
      return opening name width (← Size.dimension (.int height.toNat))) = _
    rw [Size.dimension_int, Size.dimension_int]
    rfl
  | reactivated name => exact decodeNamed_toDatum reactivated name
  | closed name => exact decodeNamed_toDatum closed name
  | evicted name => exact decodeNamed_toDatum evicted name
  | childClosed name => exact decodeNamed_toDatum childClosed name
  | registered name window => exact decodeWindow_toDatum registered name window
  | childOpened name window => exact decodeWindow_toDatum childOpened name window
  | flushed name n => exact read_counted "count" (by decide) flushed name h
  | allClosed n => exact read_single "count" allClosed (Datum.count_int h)
  | deliveryFailed name operation error =>
    show (do
      let fields ← (Payload.record (encodeFields (deliveryFailed name operation
        error))).toDatum.fields ["name", "message", "error"]
      let name ← requiredField Datum.string "name" fields
      let operation ← requiredField Datum.string "message" fields
      return deliveryFailed name operation (← requiredField Datum.string "error" fields)) = _
    rw [Datum.fields_toDatum (by simp [encodeFields]) (by simp [encodeFields])]
    rfl
  | openTimedOut name n => exact read_counted "discarded_events" (by decide) openTimedOut name h

/-- A count that was read is in range. -/
theorem lt_of_requiredField {name : String} {fields : List (String × Datum)} {n : Nat}
    (h : requiredField Datum.count name fields = .ok n) : n < UInt64.size := by
  obtain ⟨d, -, hcount⟩ := of_requiredField h
  unfold Datum.count at hcount
  obtain ⟨i, hi, heq⟩ := bind_eq_ok.mp hcount
  cases heq
  unfold Datum.whole at hi
  split at hi
  · split at hi
    · cases hi
      omega
    · cases hi
  · cases hi

/-- The numbers of activity that was read are in range. -/
theorem inRange_of_decode {d : Datum} {a : Activity} (h : decode d = .ok a) : a.InRange := by
  unfold decode at h
  obtain ⟨⟨kind, body⟩, -, h⟩ := bind_eq_ok.mp h
  have hnamed : ∀ make : String → Activity, (∀ name, (make name).InRange) →
      decodeNamed make body = .ok a → a.InRange := by
    intro make hmake hread
    unfold decodeNamed at hread
    simp only [bind_eq_ok] at hread
    obtain ⟨_, -, name, -, heq⟩ := hread
    cases heq
    exact hmake name
  have hwindow : ∀ make : String → String → Activity, (∀ name w, (make name w).InRange) →
      decodeWindow make body = .ok a → a.InRange := by
    intro make hmake hread
    unfold decodeWindow at hread
    simp only [bind_eq_ok] at hread
    obtain ⟨_, -, name, -, w, -, heq⟩ := hread
    cases heq
    exact hmake name w
  dsimp only at h
  split at h
  · simp only [bind_eq_ok] at h
    obtain ⟨_, -, _, -, _, -, _, -, heq⟩ := h
    cases heq
    trivial
  · exact hnamed reactivated (fun _ => trivial) h
  · exact hwindow registered (fun _ _ => trivial) h
  · simp only [bind_eq_ok] at h
    obtain ⟨_, -, _, -, _, hcount, heq⟩ := h
    cases heq
    exact lt_of_requiredField hcount
  · exact hnamed closed (fun _ => trivial) h
  · simp only [bind_eq_ok] at h
    obtain ⟨_, -, _, hcount, heq⟩ := h
    cases heq
    exact lt_of_requiredField hcount
  · exact hnamed evicted (fun _ => trivial) h
  · simp only [bind_eq_ok] at h
    obtain ⟨_, -, _, -, _, -, _, -, heq⟩ := h
    cases heq
    trivial
  · simp only [bind_eq_ok] at h
    obtain ⟨_, -, _, -, _, hcount, heq⟩ := h
    cases heq
    exact lt_of_requiredField hcount
  · exact hwindow childOpened (fun _ _ => trivial) h
  · exact hnamed childClosed (fun _ => trivial) h
  · cases h

end Activity

/-! ## All written types -/

/-- Values of a type can be written down and read back without loss. -/
structure Faithful {α : Type} (encode : α → Payload) (decode : Datum → Except DecodeError α)
    (Proper : α → Prop) : Prop where
  /-- Proper values are read back from what is written of them. -/
  written : ∀ x, Proper x → decode (encode x).toDatum = .ok x
  /-- So is whatever was read from JSON, in whichever form. -/
  read : ∀ d x, d.IsJson → decode d = .ok x → decode (encode x).toDatum = .ok x

/-- What is always read back is written faithfully. -/
theorem Faithful.of_total {α : Type} {encode : α → Payload}
    {decode : Datum → Except DecodeError α} (h : ∀ x, decode (encode x).toDatum = .ok x) :
    Faithful encode decode fun _ => True :=
  ⟨fun x _ => h x, fun _ x _ _ => h x⟩

/-- What is written is read back, and so is what was read, however it was written first. There is
one exception: a satellite that is told parameters that are null is told none. The tag of what is
written is the name of the operation of a message, and of the kind of an activity. -/
theorem written_read_back :
    Faithful Message.encode Message.decode (fun m => m.Proper ∧ m ≠ .reactivated (some .null)) ∧
    Message.decode (Message.reactivated (some .null)).encode.toDatum = .ok (.reactivated none) ∧
    Faithful Event.encode Event.decode (fun e => e.data.Proper) ∧
    Faithful Command.encode Command.decode (fun _ => True) ∧
    Faithful Activity.encode Activity.decode Activity.InRange ∧
    Faithful Platform.encode Platform.decode (fun _ => True) ∧
    Faithful Engine.encode Engine.decode (fun _ => True) ∧
    Faithful Size.encode Size.decode (fun _ => True) ∧
    Faithful Point.encode Point.decode (fun _ => True) ∧
    Faithful Geometry.encode Geometry.decode (fun _ => True) ∧
    Faithful OpenRequest.encode OpenRequest.decode (fun _ => True) ∧
    Faithful CoordinatorSettings.encode CoordinatorSettings.decode (fun _ => True) ∧
    (∀ m : Message, m.encode = .record (("op", .text m.operation) :: m.encodeFields)) ∧
    (∀ a : Activity, a.encode = .record (("type", .text a.kind) :: a.encodeFields)) := by
  have hmessage : ∀ m : Message, m.Proper → m ≠ .reactivated (some .null) →
      Message.decode m.encode.toDatum = .ok m := fun m hproper hne => by
    rw [Message.decode_encode hproper, Message.readBack_eq_self hne]
  refine ⟨⟨fun m hm => hmessage m hm.1 hm.2, fun d m hjson h => hmessage m
      (Message.proper_of_decode h).1 ((Message.proper_of_decode h).2 hjson)⟩,
    Message.decode_encode fun p hp => ?_,
    ⟨fun e he => Event.decode_encode he, fun d e _ h => Event.decode_encode
      (Event.proper_of_decode h)⟩,
    .of_total Command.decode_encode,
    ⟨fun a ha => Activity.decode_encode ha, fun d a _ h => Activity.decode_encode
      (Activity.inRange_of_decode h)⟩,
    .of_total Platform.decode_encode, .of_total Engine.decode_encode,
    .of_total Size.decode_encode, .of_total Point.decode_encode,
    .of_total Geometry.decode_encode, .of_total OpenRequest.decode_encode,
    .of_total CoordinatorSettings.decode_encode, fun m => ?_, fun a => ?_⟩
  · cases hp
    trivial
  · rw [← m.tag_eq_operation]
    rfl
  · rw [← a.tag_eq_kind]
    rfl

/-- A message is read from a list as well, and its event from a record with a field that there is
not; data that are not given are null. -/
example : Message.decode (.list [.text "dispatch-event",
    .record [(.text "event-type", .text "tick"), (.text "seen", .int 3)]]) =
      .ok (.event ⟨"tick", .null⟩) := rfl

end SatelliteWindows
