import Glossary.Proofs.Source.Walk
import Glossary.Proofs.Text.Utf8
import Glossary.Proofs.Token.Tokenization
import Glossary.Proofs.Watcher.Course

/-!
# What loading makes of the bytes of a file

A file that holds still is loaded by what it holds alone. Too many bytes are refused
for their number; all others are a source exactly when they are UTF-8, and then the
source is the text that they encode, nothing added and nothing taken away. Of bytes
that are not, the report tells the place of the first one that does not fit: where
walking over the longest text that they begin with ends.

What is reported is read off the machine. All that is asked of it is that requests
about the file add nothing to its reports, and that an event it is told is added
behind the others.

## Main results

* `SourceFile.exists_ofBytes_iff` — which bytes are a source.
* `SourceFile.exists_invalidSpan_eq` — the place that is reported of other bytes.
* `Machine.recorded` — what the machine in memory was told can be read off it.
* `Steady.tells_load` — what is reported while a file is loaded.
* `SourceFile.loaded_exact` — what comes of every file, and what is reported of it.
-/

namespace Glossary

open Text

/-! ## Bytes -/

/-- A text that bytes begin with has no more characters than there are bytes. -/
theorem Text.LongestText.length_le {bytes : ByteArray} {s : List Char} (h : LongestText bytes s) :
    s.length ≤ bytes.size := by
  obtain ⟨rest, rfl⟩ := h.begins
  have hchars := length_toList_le (String.ofList s)
  have hbytes : (String.ofList s).utf8ByteSize = s.utf8Encode.size := rfl
  rw [String.toList_ofList, hbytes] at hchars
  rw [ByteArray.size_append]
  omega

namespace SourceFile

theorem exists_ofBytes_iff {path : Path} {size : Nat} {bytes : ByteArray} :
    (∃ f, ofBytes path size bytes = .ok f) ↔ bytes.IsValidUTF8 := by
  constructor
  · rintro ⟨f, hf⟩
    obtain ⟨text, rfl, -⟩ := ofBytes_eq_ok_iff.1 hf
    exact text.isValidUTF8
  · intro h
    exact ⟨_, ofBytes_eq_ok_iff.2 ⟨String.fromUTF8 bytes h, rfl, rfl⟩⟩

/-- The first byte that is not UTF-8 stands where walking over the text before it ends. -/
theorem exists_invalidSpan_eq (bytes : ByteArray) :
    ∃ s, LongestText bytes s ∧
      invalidSpan bytes = ⟨Position.first.advanceAll s, Position.first.advanceAll s⟩ := by
  refine ⟨validPrefix bytes, longestText_iff.2 rfl, ?_⟩
  have hcount : (SourceMap.ofText (String.ofList (validPrefix bytes))).charCount =
      (validPrefix bytes).length := by
    show (String.ofList (validPrefix bytes)).toList.length = _
    rw [String.toList_ofList]
  have hend := SourceMap.position_eq_advanceAll (String.ofList (validPrefix bytes))
    (validPrefix bytes).length
  rw [hcount, Nat.min_self, String.toList_ofList, List.take_length] at hend
  show SourceMap.span _ _ _ = _
  rw [hcount, SourceMap.span, hend]

end SourceFile

/-! ## Reports -/

/-- What is reported after an answer; a request that is refused is not reported. -/
def afterAnswer {ε α : Type} : Except ε α → (α → List Event) → List Event
  | .error _, _ => []
  | .ok a, events => events a

namespace SourceFile

/-- What is reported of the bytes of a file. -/
def bytesReports (path : Path) (size : Nat) (bytes : ByteArray) : List Event :=
  match ofBytes path size bytes with
  | .error _ => [undecodable path bytes]
  | .ok _ => []

/-- What is reported of a file that a size is told of. -/
def sizeReports (path : Path) (size : Nat) (answer : Except HostError ByteArray) : List Event :=
  match checkSize size with
  | .error _ => [oversized path size]
  | .ok () => afterAnswer answer (bytesReports path size)

theorem sizeReports_of_checkSize {path : Path} {size : Nat} (h : checkSize size = .ok ())
    (bytes : ByteArray) : sizeReports path size (.ok bytes) = bytesReports path size bytes := by
  rw [sizeReports, h]
  rfl

theorem bytesReports_of_ofBytes {path : Path} {size : Nat} {bytes : ByteArray} {e : SourceError}
    (h : ofBytes path size bytes = .error e) :
    bytesReports path size bytes = [undecodable path bytes] := by
  rw [bytesReports, h]

end SourceFile

/-- What is reported while a file is loaded that is seen so. -/
def Sight.reports (path : Path) (v : Sight) : List Event :=
  SourceFile.loading path :: afterAnswer v.size fun size => SourceFile.sizeReports path size v.bytes

section Reporting

variable {σ α ε : Type} [Host (StateM σ)] {path : Path} {told : σ → List Event}

/-- What a machine was told can be read off it: requests about the file add nothing, and an
event is added behind the others. -/
structure Recorded (path : Path) (told : σ → List Event) : Prop where
  size : ∀ machine, told ((Host.size path : StateM σ _).run machine).2 = told machine
  read : ∀ machine, told ((Host.read path : StateM σ _).run machine).2 = told machine
  tell : ∀ e machine, told ((Host.tell e : StateM σ Unit).run machine).2 = told machine ++ [e]

/-- The machine in memory keeps a list of what it was told. -/
theorem Machine.recorded (path : Path) : Recorded path fun m : Machine => m.told.toList :=
  ⟨fun _ => rfl, fun _ => rfl, fun _ _ => Array.toList_push⟩

/-- A computation tells these events of a file that is seen so. -/
def Tells (path : Path) (told : σ → List Event) (x : StateM σ α)
    (events : Sight → List Event) : Prop :=
  ∀ machine, told (x.run machine).2 = told machine ++ events (sight path machine)

theorem Tells.pure (a : α) : Tells path told (Pure.pure a : StateM σ α) fun _ => [] :=
  fun _ => (List.append_nil _).symm

/-- An event comes before what is told after it. -/
theorem Tells.report (hsteady : Steady σ path) (hrecorded : Recorded path told) (e : Event)
    {k : Unit → ExceptT ε (StateM σ) α} {events : Sight → List Event}
    (hk : Tells path told (k ()).run events) :
    Tells path told (Host.tell e >>= k).run fun v => e :: events v := by
  intro machine
  have hrun : (Host.tell e >>= k : ExceptT ε (StateM σ) α).run.run machine =
      (k ()).run.run ((Host.tell e : StateM σ Unit).run machine).2 := rfl
  have hsight := (hsteady.tell e machine).2
  rw [hrun, hk, hrecorded.tell, hsight, List.append_assoc, List.singleton_append]

/-- A failure is reported, and nothing after it. -/
theorem Tells.refuse (hsteady : Steady σ path) (hrecorded : Recorded path told) (event : Event)
    (e : ε) : Tells path told (do Host.tell event; throw e : ExceptT ε (StateM σ) α).run
      fun _ => [event] :=
  .report hsteady hrecorded event (.pure (Except.error e))

/-- After a request that adds nothing it depends on the answer what is told. -/
theorem Tells.request {request : StateM σ (Except HostError α)}
    {answer : Sight → Except HostError α} (hsees : Sees path request answer)
    (hquiet : ∀ machine, told (request.run machine).2 = told machine) (asError : HostError → ε)
    {β : Type} {k : α → ExceptT ε (StateM σ) β} {events : α → Sight → List Event}
    (hk : ∀ a, Tells path told (k a).run (events a)) :
    Tells path told (Host.attempt asError request >>= k).run fun v =>
      afterAnswer (answer v) fun a => events a v := by
  intro machine
  obtain ⟨hanswer, hsight⟩ := hsees machine
  have hrun : (Host.attempt asError request >>= k).run.run machine =
      (ExceptT.bindCont k ((request.run machine).1.mapError asError) :
        StateM σ (Except ε β)).run (request.run machine).2 := rfl
  rw [hrun, hanswer]
  show _ = told machine ++ afterAnswer (answer (sight path machine)) fun a =>
    events a (sight path machine)
  cases answer (sight path machine) with
  | error e => exact (hquiet machine).trans (List.append_nil _).symm
  | ok a =>
      have hrest := hk a (request.run machine).2
      rw [hsight, hquiet] at hrest
      exact hrest

/-- What is reported while a file is loaded depends on what is seen of it. -/
theorem Steady.tells_load (hsteady : Steady σ path) (hrecorded : Recorded path told) :
    Tells path told (SourceFile.load path : ExceptT SourceError (StateM σ) SourceFile).run
      (Sight.reports path) := by
  have hbytes : ∀ size bytes, Tells path told (match SourceFile.ofBytes path size bytes with
      | .error e => do Host.tell (SourceFile.undecodable path bytes); throw e
      | .ok f => Pure.pure f : ExceptT SourceError (StateM σ) SourceFile).run
        fun _ => SourceFile.bytesReports path size bytes := by
    intro size bytes
    rw [SourceFile.bytesReports]
    cases SourceFile.ofBytes path size bytes with
    | error e => exact .refuse hsteady hrecorded _ e
    | ok f => exact .pure (Except.ok f)
  refine .report hsteady hrecorded _ (.request hsteady.size hrecorded.size _ fun size => ?_)
  unfold SourceFile.sizeReports
  cases SourceFile.checkSize size with
  | error e => exact .refuse hsteady hrecorded _ e
  | ok _ => exact .request hsteady.read hrecorded.read _ (hbytes size)

/-! ## Files that hold still -/

/-- What is seen of a file that holds these bytes. -/
structure Sight.Holds (v : Sight) (bytes : ByteArray) : Prop where
  size : v.size = .ok bytes.size
  bytes : v.bytes = .ok bytes

theorem Sight.Holds.load_eq {v : Sight} {bytes : ByteArray} (h : v.Holds bytes) (path : Path) :
    v.load path = SourceFile.checkSize bytes.size >>= fun _ =>
      SourceFile.ofBytes path bytes.size bytes := by
  rw [Sight.load, h.size, h.bytes]
  rfl

theorem Sight.Holds.reports_eq {v : Sight} {bytes : ByteArray} (h : v.Holds bytes) (path : Path) :
    v.reports path =
      SourceFile.loading path :: SourceFile.sizeReports path bytes.size (.ok bytes) := by
  rw [Sight.reports, h.size, h.bytes]
  rfl

namespace SourceFile

/-- Bytes are refused for what they are, not for their number. -/
theorem ofBytes_ne_tooLarge {size n : Nat} {bytes : ByteArray} :
    ofBytes path size bytes ≠ .error (.tooLarge n) := by
  by_cases hvalid : bytes.IsValidUTF8
  · obtain ⟨f, hf⟩ := exists_ofBytes_iff.2 hvalid
    rw [hf]
    exact nofun
  · rw [ofBytes_eq_error hvalid]
    exact nofun

/-- The numbers that a source tells of its text. -/
theorem counts_ofText (path : Path) (text : String) (size : Nat) :
    (ofText path text size).map.charCount = text.toList.length ∧
      (ofText path text size).map.lineCount = text.toList.count '\n' + 1 := by
  refine ⟨rfl, ?_⟩
  show (SourceMap.ofText text).lineCount = _
  rw [SourceMap.ofText_size, length_pieces]

/-- The text is refused by its number of bytes, or is what the bytes say. -/
theorem loaded_of_holds {machine : σ} {bytes : ByteArray} (hsteady : Steady σ path)
    (hholds : (sight path machine).Holds bytes) : loaded path machine =
      if Limits.maxFileSize < bytes.size then .error (.tooLarge bytes.size)
      else ofBytes path bytes.size bytes := by
  rw [hsteady.loaded_eq, hholds.load_eq]
  by_cases hlarge : Limits.maxFileSize < bytes.size
  · rw [if_pos hlarge, checkSize_of_lt hlarge]
    rfl
  · rw [if_neg hlarge, checkSize_of_le (Nat.not_lt.1 hlarge)]
    rfl

/-- What is reported of a file that is not too large and not UTF-8: that it is loaded, and the
place of the first byte that does not fit. -/
theorem told_of_not_valid {machine : σ} {bytes : ByteArray} (hsteady : Steady σ path)
    (hrecorded : Recorded path told) (hholds : (sight path machine).Holds bytes)
    (hsize : bytes.size ≤ Limits.maxFileSize) (hvalid : ¬ bytes.IsValidUTF8) :
    told ((load path : ExceptT SourceError (StateM σ) SourceFile).run.run machine).2 =
      told machine ++ [loading path, undecodable path bytes] := by
  rw [hsteady.tells_load hrecorded, hholds.reports_eq,
    sizeReports_of_checkSize (checkSize_of_le hsize), bytesReports_of_ofBytes
      (ofBytes_eq_error hvalid)]

/-- A file that holds still is loaded exactly. It is refused as too large if it has more bytes
than the limit, with their number. Otherwise it is a source if its bytes are UTF-8; then these
bytes are the encoding of its text, and its size and the numbers of its characters and lines are
those of the text. Other bytes are refused as no UTF-8, and the last event that is told then
starts and ends where walking over the longest text that they begin with ends, at a line and a
column that fit into 32 bits. -/
theorem loaded_exact (hsteady : Steady σ path) (hrecorded : Recorded path told) {machine : σ}
    {bytes : ByteArray} (hholds : (sight path machine).Holds bytes) :
    (∀ n, loaded path machine = .error (.tooLarge n) ↔
      Limits.maxFileSize < bytes.size ∧ n = bytes.size) ∧
    (bytes.size ≤ Limits.maxFileSize →
      ((∃ f, loaded path machine = .ok f) ↔ bytes.IsValidUTF8) ∧
      (∀ f, loaded path machine = .ok f → f.text.toUTF8 = bytes ∧ f.size = bytes.size ∧
        f.map.charCount = f.text.toList.length ∧
        f.map.lineCount = f.text.toList.count '\n' + 1) ∧
      (¬ bytes.IsValidUTF8 → loaded path machine = .error (.invalidEncoding path) ∧
        ∃ s event, LongestText bytes s ∧ (Position.first.advanceAll s).Fits ∧
          told ((load path : ExceptT SourceError (StateM σ) SourceFile).run.run machine).2 =
            told machine ++ [loading path, event] ∧
          event.level = .error ∧ event.code = .invalidEncoding ∧
          event.span? = some ⟨Position.first.advanceAll s, Position.first.advanceAll s⟩)) := by
  have hload := loaded_of_holds hsteady hholds
  refine ⟨fun n => ?_, fun hsize => ?_⟩
  · by_cases hlarge : Limits.maxFileSize < bytes.size
    · simp [hload, hlarge, eq_comm]
    · simp [hload, hlarge, ofBytes_ne_tooLarge]
  · rw [if_neg (Nat.not_lt.2 hsize)] at hload
    refine ⟨?_, ?_, ?_⟩
    · rw [hload]
      exact exists_ofBytes_iff
    · intro f hf
      rw [hload] at hf
      obtain ⟨text, hbytes, rfl⟩ := ofBytes_eq_ok_iff.1 hf
      exact ⟨hbytes.symm, rfl, counts_ofText path text bytes.size⟩
    · intro hvalid
      obtain ⟨s, hs, hspan⟩ := exists_invalidSpan_eq bytes
      have hlength := hs.length_le
      have hlimit : Limits.maxFileSize < UInt32.size - 1 := by decide
      have hfits : (Position.first.advanceAll s).Fits := Position.fits_advanceAll (by omega)
      have htold := told_of_not_valid hsteady hrecorded hholds hsize hvalid
      exact ⟨hload.trans (ofBytes_eq_error hvalid), s, undecodable path bytes, hs, hfits, htold,
        rfl, rfl, congrArg some hspan⟩

/-- One file holds a text with a letter of two bytes, another is cut off in the middle of such a
letter. -/
theorem loaded_exact_cutOff :
    let machine : Machine := ⟨((FileTree.empty []).put ["a.py"] (.file "é\r\n".toUTF8 ⟨1, 0⟩)).put
      ["b.py"] (.file ⟨#[0x61, 0x0a, 0xc3]⟩ ⟨1, 0⟩), #[], ⟨1, 0⟩⟩
    let told := fun m : Machine => m.told.toList
    let bytes : ByteArray := ⟨#[0x61, 0x0a, 0xc3]⟩
    (Steady Machine ⟨"a.py"⟩ ∧ Recorded ⟨"a.py"⟩ told ∧
      (sight ⟨"a.py"⟩ machine).Holds "é\r\n".toUTF8 ∧
      "é\r\n".toUTF8.size ≤ Limits.maxFileSize ∧ "é\r\n".toUTF8.IsValidUTF8 ∧
      ∃ f, loaded ⟨"a.py"⟩ machine = .ok f ∧ f.text = "é\r\n" ∧ f.size = 4 ∧
        f.map.charCount = 3 ∧ f.map.lineCount = 2) ∧
    Steady Machine ⟨"b.py"⟩ ∧ Recorded ⟨"b.py"⟩ told ∧ (sight ⟨"b.py"⟩ machine).Holds bytes ∧
      bytes.size ≤ Limits.maxFileSize ∧ ¬ bytes.IsValidUTF8 ∧
      loaded ⟨"b.py"⟩ machine = .error (.invalidEncoding ⟨"b.py"⟩) ∧
      ∃ event, told ((load ⟨"b.py"⟩ : ExceptT SourceError (StateM Machine) SourceFile).run.run
          machine).2 = [loading ⟨"b.py"⟩, event] ∧
        event.span? = some ⟨⟨2, 2, 1⟩, ⟨2, 2, 1⟩⟩ := by
  intro machine told bytes
  have hfirst : (sight ⟨"a.py"⟩ machine).Holds "é\r\n".toUTF8 := ⟨rfl, rfl⟩
  have hsecond : (sight ⟨"b.py"⟩ machine).Holds bytes := ⟨rfl, rfl⟩
  have hsize : bytes.size ≤ Limits.maxFileSize := by decide
  have hvalid : ¬ bytes.IsValidUTF8 := by decide
  have htext : "é\r\n".toUTF8.size ≤ Limits.maxFileSize := by decide
  refine ⟨⟨Machine.steady _, Machine.recorded _, hfirst, htext, "é\r\n".isValidUTF8, ?_⟩,
    Machine.steady _, Machine.recorded _, hsecond, hsize, hvalid, ?_⟩
  · obtain ⟨-, hexact⟩ := loaded_exact (Machine.steady _) (Machine.recorded _) hfirst
    obtain ⟨hok, hwhole, -⟩ := hexact htext
    obtain ⟨f, hf⟩ := hok.2 "é\r\n".isValidUTF8
    obtain ⟨hbytes, hfsize, hchars, hlines⟩ := hwhole f hf
    have hsame : f.text = "é\r\n" := String.toByteArray_inj.1 hbytes
    rw [hsame] at hchars hlines
    exact ⟨f, hf, hsame, hfsize, hchars, hlines⟩
  · obtain ⟨-, hexact⟩ := loaded_exact (Machine.steady _) (Machine.recorded _) hsecond
    obtain ⟨-, -, hrefused⟩ := hexact hsize
    obtain ⟨hload, s, event, hs, -, htold, -, -, hspan⟩ := hrefused hvalid
    have hlongest : LongestText bytes ['a', '\n'] := by
      refine ⟨⟨⟨#[0xc3]⟩, rfl⟩, ?_⟩
      intro valid rest hbytes hrest
      by_cases hempty : rest = .empty
      · rw [hempty, ByteArray.append_empty] at hbytes
        exact absurd (hbytes ▸ hrest) hvalid
      · have hpos : rest.size ≠ 0 := fun h => hempty (ByteArray.size_eq_zero_iff.1 h)
        have hthree : valid.size + rest.size = 3 := by rw [← ByteArray.size_append, ← hbytes]; rfl
        show valid.size ≤ 2
        omega
    rw [(longestText_iff.1 hs).trans (longestText_iff.1 hlongest).symm] at hspan
    exact ⟨hload, event, htold, hspan⟩

end SourceFile

end Reporting

end Glossary
