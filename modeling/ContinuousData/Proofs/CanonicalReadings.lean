import ContinuousData.Proofs.ControlBodies
import ContinuousData.Proofs.DateSpellings

/-! What comes off the wire. Whatever the bytes, texts are read without NUL characters and without
white space at their ends, dates as times on whole milliseconds in years of four digits, and codes as
the kinds that have them. The wire can carry all of this without a change, so what has been read and
written once stays as it is. -/
namespace ContinuousData

namespace Decoder

variable {α β : Type} {p : α → Prop} {q : β → Prop}

/-- Whatever the decoder reads, from whatever bytes, is like this. -/
def Yields (decoder : Decoder α) (p : α → Prop) : Prop :=
  ∀ input value rest, decoder input = .ok value rest → p value

theorem Yields.pure {value : α} (h : p value) : Yields (Pure.pure value) p := by
  intro input found rest read
  obtain ⟨rfl, -⟩ := EStateM.Result.ok.inj read
  exact h

theorem Yields.throw (reason : Error) : Yields (throw reason) p :=
  fun _ _ _ read => nomatch read

theorem Yields.bind {first : Decoder α} {next : α → Decoder β} (h : Yields first p)
    (hn : ∀ value, p value → Yields (next value) q) : Yields (first >>= next) q := by
  intro input result rest read
  obtain ⟨value, left, found, others⟩ := bind_eq_ok.mp read
  exact hn value (h input value left found) left result rest others

/-- After a read of which nothing need be known. -/
theorem Yields.next {first : Decoder α} {next : α → Decoder β}
    (h : ∀ value, Yields (next value) q) : Yields (first >>= next) q :=
  Yields.bind (p := fun _ => True) (fun _ _ _ _ => trivial) fun value _ => h value

theorem Yields.map {decoder : Decoder α} {f : α → β} (h : Yields decoder p)
    (hf : ∀ value, p value → q (f value)) : Yields (do return f (← decoder)) q :=
  h.bind fun value known => Yields.pure (hf value known)

theorem Yields.refuse {c : Prop} [Decidable c] {reason : Error} {next : β → Decoder α}
    {others : Decoder α} (h : ¬ c → Yields others p) :
    Yields (if c then MonadExcept.throw reason >>= next else others) p := by
  split
  case isTrue => exact Yields.bind (p := fun _ => False) (Yields.throw reason) fun _ => False.elim
  case isFalse other => exact h other

theorem yields_ofExcept (result : Except Error α) :
    Yields (ofExcept result) fun value => result = .ok value :=
  fun _ _ _ read => (ofExcept_eq_ok read).1

theorem yields_text (width : Nat) : Yields (text width) Text.IsPlain :=
  .next fun raw => .pure (Text.isPlain_strip raw)

theorem yields_sized (field : String) :
    Yields (sized field) fun value => value.length ≤ Encoder.maxLength := by
  intro input value rest read
  obtain ⟨_, short, -⟩ := sized_eq_ok read
  exact short

end Decoder

open Decoder

theorem OrdinalDate.yields_read : Yields read IsExact :=
  .next fun _ _ _ _ read => isExact_of_parse (ofExcept_eq_ok read).1

theorem Handshake.secondaryOf_ne (ip : UInt32) (port : UInt16) :
    secondaryOf ip port ≠ some (.unspecified, 0) := by
  unfold secondaryOf
  split
  case isTrue => exact nofun
  case isFalse given =>
    intro same
    obtain ⟨address, rfl⟩ := Prod.mk.inj (Option.some.inj same)
    exact given ⟨Ipv4.mk.inj address, rfl⟩

theorem Handshake.yields_read :
    Yields read fun body => body.check = .ok () ∧ body.IsCanonical :=
  .next fun _ => .next fun _ => (yields_text _).bind fun _ name =>
    (yields_text _).bind fun _ type => .next fun _ => .next fun _ => .next fun _ => .next fun _ =>
    .next fun _ => .next fun _ => (yields_ofExcept _).map fun _ valid =>
    ⟨valid, name, type, secondaryOf_ne _ _⟩

theorem OptionSetting.yields_read :
    Yields read fun body => body.check = .ok () ∧ Text.IsPlain body.value :=
  .next fun _ => .next fun _ => .next fun raw => (yields_ofExcept _).map fun _ valid =>
    ⟨valid, Text.isPlain_strip raw⟩

theorem Acknowledgement.yields_read : Yields read fun body => Text.IsPlain body.frameset :=
  (yields_text _).bind fun _ frameset => .next fun _ => .next fun _ => .next fun _ =>
    .next fun _ => .refuse fun _ => .next fun _ => .pure frameset

theorem Alert.yields_read : Yields read Text.IsPlain :=
  .next fun raw => .next fun _ => .pure (Text.isPlain_strip raw)

theorem CommandTarget.yields_read : Yields read IsCanonical :=
  (yields_text _).bind fun _ station => (yields_text _).bind fun _ site =>
    (yields_text _).bind fun _ channel => (yields_text _).bind fun _ location => .next fun _ =>
    OrdinalDate.yields_read.map fun _ time => ⟨station, site, channel, location, time⟩

theorem CommandMessage.yields_read (field : String) : Yields (read field) Text.IsPlain :=
  .next fun _ => .next fun raw => .refuse fun _ => .pure (Text.isPlain_strip raw)

theorem CommandRequest.yields_read :
    Yields read fun body => body.target.IsCanonical ∧ Text.IsPlain body.command :=
  CommandTarget.yields_read.bind fun _ target => (CommandMessage.yields_read _).map fun _ command =>
    ⟨target, command⟩

theorem CommandResponse.yields_read :
    Yields read fun body =>
      body.target.IsCanonical ∧ Text.IsPlain body.request ∧ Text.IsPlain body.response :=
  CommandTarget.yields_read.bind fun _ target => (CommandMessage.yields_read _).bind fun _ request =>
    (CommandMessage.yields_read _).map fun _ response => ⟨target, request, response⟩

/-- Whatever is read as a body, the wire can carry without a change. -/
theorem Body.yields_reader (type : FrameType) : Yields (reader type) IsCanonical := by
  cases type with
  | connectionRequest => exact Handshake.yields_read.map fun _ read => read.2
  | connectionResponse => exact Handshake.yields_read.map fun _ read => read.2
  | optionRequest => exact OptionSetting.yields_read.map fun _ read => read.2
  | optionResponse => exact OptionSetting.yields_read.map fun _ read => read.2
  | data => exact .throw _
  | acknack => exact Acknowledgement.yields_read.map fun _ => id
  | alert => exact Alert.yields_read.map fun _ => id
  | commandRequest => exact CommandRequest.yields_read.map fun _ => id
  | commandResponse => exact CommandResponse.yields_read.map fun _ => id
  | encapsulation => exact .next fun _ => .pure trivial
  | customReset => exact .next fun _ => .pure trivial
  | malformed => exact .throw _

/-- A subframe that has been read can be written. -/
theorem Subframe.yields_read :
    Yields read fun s => s.IsCanonical ∧ ∃ written, s.write = .ok written :=
  .next fun _ => .refuse fun _ => .next fun _ => .next fun _ => .next fun _ => .next fun _ =>
    .next fun sensor => .next fun _ => (yields_text _).bind fun _ site =>
    (yields_text _).bind fun _ channel => (yields_text _).bind fun _ location =>
    (yields_text _).bind fun code format => .next fun _ => .next fun _ =>
    OrdinalDate.yields_read.bind fun _ time => .next fun _ => .next fun _ =>
    (yields_sized _).bind fun _ status => (yields_sized _).bind fun _ data => .next fun _ =>
    .next fun _ => (yields_sized _).bind fun _ authValue => (yields_ofExcept _).map fun _ valid =>
    ⟨{ valid, site, channel, location, time
       formatText := by rwa [DataFormat.code_ofCode]
       format := by rw [DataFormat.code_ofCode]
       sensor := by rw [Sensor.code_ofCode] },
     write_of_check valid time status data authValue⟩

namespace Body

theorem isCanonical_of_read {type : FrameType} (control : type ≠ .data) {input : Bytes}
    {body : Body} (h : (read type input).1 = .ok body) : body.IsCanonical := by
  rw [read_eq control] at h
  cases found : reader type input with
  | error reason left =>
    rw [found] at h
    contradiction
  | ok value left =>
    rw [found] at h
    obtain rfl := Except.ok.inj h
    exact yields_reader type input value left found

/-- What the wire can carry without a change is read as it was written. -/
theorem read_of_isCanonical {body : Body} {written : Bytes} (control : body.type ≠ .data)
    (h : body.write = .ok written) (canonical : body.IsCanonical) :
    read body.type written =
      (.ok body, if body.type = .encapsulation then [.undecodedEncapsulation] else []) := by
  rw [read_of_legible control h (canonical.isLegible h), canonical.kept_eq]

/-- What has been read, from whatever bytes, is read again, to the last byte, from the bytes as
which it is written, if it can be written, and is written as these bytes once more. A subframe that
has been read can always be written. Of what can be written, there are bytes from which it is read
exactly if the wire can carry it without a change. -/
theorem settled_of_read :
    (∀ type ≠ FrameType.data, ∀ input body written, (read type input).1 = .ok body →
      body.write = .ok written →
        ∃ again, read type written =
            (.ok again, if type = .encapsulation then [.undecodedEncapsulation] else []) ∧
          again = body ∧ again.write = .ok written) ∧
    (∀ input s rest, Subframe.read input = .ok s rest →
      ∃ written again, s.write = .ok written ∧ Subframe.read written = .ok again [] ∧
        again = s ∧ again.write = .ok written) ∧
    (∀ body written, body.type ≠ .data → body.write = .ok written →
      ((∃ input, (read body.type input).1 = .ok body) ↔ body.IsCanonical)) ∧
    ∀ s written, s.write = .ok written →
      ((∃ input rest, Subframe.read input = .ok s rest) ↔ s.IsCanonical) := by
  refine ⟨?_, ?_, ?_, ?_⟩
  · intro type control input body written h hw
    have canonical := isCanonical_of_read control h
    obtain rfl := type_of_read h
    exact ⟨body, read_of_isCanonical control hw canonical, rfl, hw⟩
  · intro input s rest h
    obtain ⟨canonical, written, hw⟩ := Subframe.yields_read input s rest h
    exact ⟨written, s, hw, (Subframe.reads_write hw canonical).exact, rfl, hw⟩
  · intro body written control hw
    refine ⟨fun ⟨input, h⟩ => isCanonical_of_read control h, fun canonical => ⟨written, ?_⟩⟩
    rw [read_of_isCanonical control hw canonical]
  · intro s written hw
    exact ⟨fun ⟨input, rest, h⟩ => (Subframe.yields_read input s rest h).1,
      fun canonical => ⟨written, [], (Subframe.reads_write hw canonical).exact⟩⟩

example :
    read .alert [0, 0, 0, 5, 0, 0x20, 0x61, 0xFF, 0x20, 0, 0, 0, 9] =
        (.ok (.alert "a\uFFFD"), [.trailingBytes .alert 1]) ∧
      write (.alert "a\uFFFD") = .ok [0, 0, 0, 4, 0x61, 0xEF, 0xBF, 0xBD] := by
  decide

end Body

end ContinuousData
