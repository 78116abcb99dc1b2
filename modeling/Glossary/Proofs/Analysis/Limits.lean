import Glossary.Proofs.Analysis.Lookup
import Glossary.Proofs.Token.Whole
import Glossary.Proofs.Watcher.Course
import Glossary.Proofs.Watcher.Replacement

/-!
# What the limits of a scan refuse

Two limits guard a scan: one for the bytes of the text, which every way to ask for
tokens checks, and one for the number of tokens, which only the list of all tokens
checks. So a text with too many tokens has no such list, but the token at each of
its offsets can still be asked for.

A file is refused by its size before it is read. The size is what the machine told,
and the text is what the machine read then; they are two requests. Where the size
that is told is the number of bytes that are read, a source is always small enough
to be scanned, because the limit for files is not above the one for texts.

That takes a file that tells the number of its bytes and holds still. What another
program writes into a pipe has no size that could be told, and a file may grow once
its size is known. From either, a text of any length is loaded.

## Main results

* `Token.tokenize_eq_error_iff` — the texts that have no list of all tokens, and why.
* `SourceFile.size_le_of_loaded` — what loading checks, whatever the machine does.
* `Machine.measured` — the machine in memory tells the number of bytes.
* `limits_exact` — what is refused, and which sources are never too large.
* `Pipe.loaded_eq`, `Timeline.loaded_grown` — texts that are loaded whatever their length.
* `not_loaded_scans` — so there are sources that are too large.
-/

namespace Glossary

open Text

/-! ## Scans -/

namespace Token

/-- The size is looked at first, and then the number of tokens. -/
theorem tokenize_eq_error_iff {text : String} {e : ScanError} :
    tokenize text = .error e ↔ scanAll text = .error e ∨
      ∃ ts, scanAll text = .ok ts ∧ Limits.maxTokenCount < ts.length ∧
        e = .tooManyTokens (Limits.maxTokenCount + 1) := by
  rw [tokenize_eq_scanAll]
  cases scanAll text with
  | error e' => simp [Except.bind]
  | ok ts =>
      by_cases hmany : Limits.maxTokenCount < ts.length
      · simp [Except.bind, hmany, eq_comm]
      · simp [Except.bind, hmany]

theorem tokenize_eq_inputTooLarge_iff {text : String} {n : Nat} :
    tokenize text = .error (.inputTooLarge n) ↔
      Limits.maxInputSize < text.utf8ByteSize ∧ n = text.utf8ByteSize := by
  rw [tokenize_eq_error_iff, scanAll_eq_error_iff, ScanError.inputTooLarge.injEq]
  simp

/-- Where a text is scanned, the number of its tokens decides. -/
theorem tokenize_of_scanAll {text : String} {ts : List Token} (h : scanAll text = .ok ts) :
    (∀ n, tokenize text = .error (.tooManyTokens n) ↔
      Limits.maxTokenCount < ts.length ∧ n = Limits.maxTokenCount + 1) ∧
    ∀ found, tokenize text = .ok found ↔
      ts.length ≤ Limits.maxTokenCount ∧ found = ts.toArray := by
  rw [tokenize_eq_scanAll, h]
  by_cases hmany : Limits.maxTokenCount < ts.length
  · have hnot : ¬ ts.length ≤ Limits.maxTokenCount := Nat.not_le.2 hmany
    simp [Except.bind, hmany, hnot, eq_comm]
  · simp [Except.bind, hmany, Nat.not_lt.1 hmany, eq_comm]

theorem at?_eq_error_iff {text : String} {offset : Nat} {e : ScanError} :
    at? text offset = .error e ↔
      Limits.maxInputSize < text.utf8ByteSize ∧ e = .inputTooLarge text.utf8ByteSize := by
  rw [at?_eq_scanAll, ← scanAll_eq_error_iff]
  cases scanAll text <;> simp [Except.map]

end Token

open Token

/-- Where no character is blank or starts a word, each is a token. -/
theorem Cursor.length_tokens_of_lone {s : List Char}
    (h : ∀ x ∈ s, isBlank x = false ∧ isWordStart x = false) (chars bytes : Nat) :
    (Cursor.tokens ⟨s, chars, bytes⟩).length = s.length := by
  induction s generalizing chars bytes with
  | nil =>
      rw [tokens_of_blank (by simp), List.length_nil, List.length_nil]
  | cons x s ih =>
      obtain ⟨hsolid, hother⟩ := h x List.mem_cons_self
      have hcut : Token.Cut (x :: s) [] [x] s := ⟨rfl, by simp, .lone hsolid hother⟩
      have hstep := step_pass (c := ⟨x :: s, chars, bytes⟩) hcut
      rw [hstep.tokens_eq, List.length_cons, List.length_cons, Cursor.pass,
        ih fun y hy => h y (List.mem_cons_of_mem _ hy)]

namespace Store

theorem hover?_eq_scanAll (s : Store) (text : String) (offset : Nat) :
    s.hover? text offset = ((scanAll text).map fun ts =>
      (ts.find? (·.covers offset)).map (Match.ofToken s)).mapError .scan := by
  rw [hover?, at?_eq_scanAll]
  cases scanAll text <;> rfl

theorem hover?_eq_error_iff {s : Store} {text : String} {offset : Nat} {e : AnalysisError} :
    s.hover? text offset = .error e ↔ Limits.maxInputSize < text.utf8ByteSize ∧
      e = .scan (.inputTooLarge text.utf8ByteSize) := by
  rw [hover?_eq_scanAll]
  cases hscan : scanAll text with
  | error e' =>
      obtain ⟨hlt, rfl⟩ := scanAll_eq_error_iff.1 hscan
      simp [Except.map, Except.mapError, hlt, eq_comm]
  | ok ts =>
      have hle := (scanAll_eq_ok_iff.1 hscan).1
      simp [Except.map, Except.mapError, Nat.not_lt.2 hle]

end Store

/-! ## Sources -/

theorem SourceFile.size_of_ofBytes {path : Path} {size : Nat} {bytes : ByteArray}
    {f : SourceFile} (h : SourceFile.ofBytes path size bytes = .ok f) : f.size = size := by
  obtain ⟨text, -, rfl⟩ := SourceFile.ofBytes_eq_ok_iff.1 h
  rfl

namespace Sight

/-- The size that is told of the file is the number of bytes that it holds. -/
def Measured (v : Sight) : Prop :=
  ∀ size bytes, v.size = .ok size → v.bytes = .ok bytes → size = bytes.size

/-- The size of a source is what was told of the file. -/
theorem size_of_load {path : Path} {v : Sight} {f : SourceFile} (h : v.load path = .ok f) :
    v.size = .ok f.size := by
  obtain ⟨size, hsize, h⟩ := Except.bind_eq_ok_iff.1 h
  obtain ⟨-, -, h⟩ := Except.bind_eq_ok_iff.1 h
  obtain ⟨bytes, -, h⟩ := Except.bind_eq_ok_iff.1 h
  rw [Except.mapError_eq_ok_iff] at hsize
  rw [hsize, SourceFile.size_of_ofBytes h]

/-- A text is loaded whenever the size that is told of it is small enough. -/
theorem load_of_le {path : Path} {v : Sight} {size : Nat} {text : String}
    (hsize : v.size = .ok size) (hle : size ≤ Limits.maxFileSize)
    (hbytes : v.bytes = .ok text.toUTF8) : v.load path = .ok (.ofText path text size) := by
  have hread : SourceFile.ofBytes path size text.toUTF8 = .ok (.ofText path text size) :=
    SourceFile.ofBytes_eq_ok_iff.2 ⟨text, rfl, rfl⟩
  rw [load, hsize, hbytes, ← hread]
  show (SourceFile.checkSize size >>= fun _ => _) = _
  rw [SourceFile.checkSize_of_le hle]
  rfl

end Sight

theorem Machine.measured (path : Path) (machine : Machine) : (sight path machine).Measured := by
  intro size bytes hsize hbytes
  have hsize : machine.tree.size path = .ok size := hsize
  have hbytes : machine.tree.read path = .ok bytes := hbytes
  rw [FileTree.size] at hsize
  rw [FileTree.read] at hbytes
  obtain ⟨⟨place, node⟩, hfind, hsize⟩ := Except.bind_eq_ok_iff.1 hsize
  rw [hfind] at hbytes
  cases node with
  | folder => cases hbytes
  | file content modified =>
      cases hbytes
      cases hsize
      rfl

/-- What succeeds has gone through its last part, on some machine. -/
theorem exists_of_bind_eq_ok {σ α β ε : Type} {x : ExceptT ε (StateM σ) α}
    {k : α → ExceptT ε (StateM σ) β} {machine : σ} {b : β}
    (h : ((x >>= k).run.run machine).1 = .ok b) :
    ∃ a later, ((k a).run.run later).1 = .ok b := by
  have hrun : (x >>= k).run.run machine =
      (ExceptT.bindCont k (x.run.run machine).1 : StateM σ _).run (x.run.run machine).2 := rfl
  rw [hrun] at h
  cases hx : (x.run.run machine).1 with
  | error e =>
      rw [hx] at h
      cases h
  | ok a =>
      rw [hx] at h
      exact ⟨a, _, h⟩

namespace SourceFile

variable {σ : Type} [Host (StateM σ)] {path : Path}

/-- Loading lets no file in of which a larger size is told. -/
theorem size_le_of_loaded {machine : σ} {f : SourceFile} (h : loaded path machine = .ok f) :
    f.size ≤ Limits.maxFileSize := by
  obtain ⟨-, m₁, h⟩ := exists_of_bind_eq_ok h
  obtain ⟨size, m₂, h⟩ := exists_of_bind_eq_ok h
  by_cases hsize : Limits.maxFileSize < size
  · rw [checkSize, if_pos hsize] at h
    obtain ⟨-, m₃, h⟩ := exists_of_bind_eq_ok h
    cases h
  · rw [checkSize, if_neg hsize] at h
    obtain ⟨bytes, m₃, h⟩ := exists_of_bind_eq_ok h
    cases hbytes : ofBytes path size bytes with
    | error e =>
        rw [hbytes] at h
        obtain ⟨-, m₄, h⟩ := exists_of_bind_eq_ok h
        cases h
    | ok f' =>
        rw [hbytes] at h
        cases h
        rw [size_of_ofBytes hbytes]
        exact Nat.not_lt.1 hsize

/-- Where the size that is told is the number of bytes, it is the size of the text. -/
theorem utf8ByteSize_of_loaded (hsteady : Steady σ path) {machine : σ} {f : SourceFile}
    (hmeasured : (sight path machine).Measured) (h : loaded path machine = .ok f) :
    f.text.utf8ByteSize = f.size := by
  have hbytes := hsteady.bytes_of_loaded h
  rw [hsteady.loaded_eq] at h
  exact (hmeasured _ _ (Sight.size_of_load h) hbytes).symm

end SourceFile

/-! ## Files that tell less than they hold -/

/-- A pipe with what another program has written into it: a file that tells no bytes, however many
it holds. What is read stays in it, as in the files that a machine makes up while they are read. -/
structure Pipe where
  bytes : ByteArray

namespace Pipe

/-- The pipe has every path. It can be looked at, and nothing else. -/
instance : Host (StateM Pipe) where
  size _ := pure (.ok 0)
  modified? _ := pure none
  read _ := do pure (.ok (← get).bytes)
  write _ _ := pure (.error .permissionDenied)
  isFolder _ := pure false
  makeFolder _ := pure (.error .permissionDenied)
  tell _ := pure ()

theorem steady (path : Path) : Steady Pipe path :=
  ⟨fun _ => ⟨rfl, rfl⟩, fun _ => ⟨rfl, rfl⟩, fun _ => ⟨rfl, rfl⟩, fun _ _ => ⟨rfl, rfl⟩⟩

/-- A pipe is loaded, whatever text is in it. -/
theorem loaded_eq (path : Path) (text : String) :
    SourceFile.loaded path (⟨text.toUTF8⟩ : Pipe) = .ok (.ofText path text 0) := by
  rw [(steady path).loaded_eq]
  exact Sight.load_of_le rfl (Nat.zero_le _) rfl

end Pipe

namespace Timeline

theorem measured_numbered (path : Path) (texts : List String) (stage : Nat → Nat) (n : Nat) :
    (sight path (⟨Watcher.numbered texts stage, n⟩ : Timeline)).Measured := by
  rintro size bytes ⟨⟩ ⟨⟩
  rfl

/-- A file that is empty when its size is asked for is loaded, whatever text is in it when it is
read. -/
theorem loaded_grown (path : Path) (text : String) :
    SourceFile.loaded path (⟨Watcher.numbered ["", text] id, 0⟩ : Timeline) =
      .ok (.ofText path text 0) := by
  obtain ⟨later, -, hrun, -⟩ := load_run path (Watcher.numbered ["", text] id) 0 0
  rw [SourceFile.loaded, hrun]
  exact Sight.load_of_le rfl (Nat.zero_le _) rfl

end Timeline

/-- The text that is one blank too long for a scan. -/
def overlong : String := String.ofList (List.replicate (Limits.maxInputSize + 1) ' ')

theorem tokenize_overlong :
    tokenize overlong = .error (.inputTooLarge (Limits.maxInputSize + 1)) := by
  have hsize : overlong.utf8ByteSize = Limits.maxInputSize + 1 := by
    rw [overlong, utf8ByteSize_ofList]
    exact byteLength_replicate_of_one rfl _
  rw [tokenize_eq_inputTooLarge_iff, hsize]
  exact ⟨Nat.lt_succ_self _, rfl⟩

/-! ## All limits -/

/-- Lists of all tokens are refused for texts over the limit, with their size, and otherwise
when the whole scan has too many tokens, at the first one over the limit. The token at an
offset is refused for the same texts of too many bytes and for no other reason: it is looked
for among all tokens, however many they are. A source that is too large for a scan has more
bytes than its machine told; so none is, if the file holds still and the size that is told is
the number of its bytes. -/
theorem limits_exact :
    (∀ text : String,
      (∀ n, tokenize text = .error (.inputTooLarge n) ↔
        Limits.maxInputSize < text.utf8ByteSize ∧ n = text.utf8ByteSize) ∧
      (text.utf8ByteSize ≤ Limits.maxInputSize → ∃ ts, scanAll text = .ok ts ∧
        (∀ n, tokenize text = .error (.tooManyTokens n) ↔
          Limits.maxTokenCount < ts.length ∧ n = Limits.maxTokenCount + 1) ∧
        (∀ found, tokenize text = .ok found ↔
          ts.length ≤ Limits.maxTokenCount ∧ found = ts.toArray) ∧
        ∀ offset, at? text offset = .ok (ts.find? (·.covers offset)) ∧
          ∀ s : Store, s.hover? text offset =
            .ok ((ts.find? (·.covers offset)).map (Match.ofToken s))) ∧
      ∀ offset,
        (∀ e, at? text offset = .error e ↔ Limits.maxInputSize < text.utf8ByteSize ∧
          e = .inputTooLarge text.utf8ByteSize) ∧
        ∀ (s : Store) e, s.hover? text offset = .error e ↔
          Limits.maxInputSize < text.utf8ByteSize ∧
          e = .scan (.inputTooLarge text.utf8ByteSize)) ∧
    ∀ (σ : Type) [Host (StateM σ)] (path : Path) (machine : σ) (f : SourceFile),
      SourceFile.loaded path machine = .ok f →
      (Limits.maxInputSize < f.text.utf8ByteSize → f.size < f.text.utf8ByteSize) ∧
      (Steady σ path → (sight path machine).Measured → ∀ n,
        tokenize f.text ≠ .error (.inputTooLarge n) ∧ ∀ offset,
          at? f.text offset ≠ .error (.inputTooLarge n) ∧
          ∀ s : Store, s.hover? f.text offset ≠ .error (.scan (.inputTooLarge n))) := by
  refine ⟨fun text => ⟨fun n => tokenize_eq_inputTooLarge_iff, ?_, ?_⟩, ?_⟩
  · intro hle
    have hscan := scanAll_eq_ok hle
    obtain ⟨hmany, hall⟩ := tokenize_of_scanAll hscan
    refine ⟨_, hscan, hmany, hall, fun offset => ⟨?_, fun s => ?_⟩⟩
    · rw [at?_eq_scanAll, hscan]
      rfl
    · exact Store.hover?_eq_ok hle s offset
  · intro offset
    exact ⟨fun e => at?_eq_error_iff, fun s e => Store.hover?_eq_error_iff⟩
  · intro σ _ path machine f hload
    have hsize := SourceFile.size_le_of_loaded hload
    have hlimits := Limits.maxFileSize_le_maxInputSize
    refine ⟨fun hlarge => by omega, fun hsteady hmeasured n => ?_⟩
    have hbytes := SourceFile.utf8ByteSize_of_loaded hsteady hmeasured hload
    have hfits : ¬ Limits.maxInputSize < f.text.utf8ByteSize := by omega
    refine ⟨?_, fun offset => ⟨?_, fun s => ?_⟩⟩
    · intro h
      exact hfits (tokenize_eq_inputTooLarge_iff.1 h).1
    · intro h
      exact hfits (at?_eq_error_iff.1 h).1
    · intro h
      exact hfits (Store.hover?_eq_error_iff.1 h).1

/-- A text of as many signs as one more than the limit for tokens has no list of tokens, but
there is a token at its last offset. A small file is loaded and scanned. -/
theorem limits_exact_signs :
    let text := String.ofList (List.replicate (Limits.maxTokenCount + 1) '+')
    tokenize text = .error (.tooManyTokens (Limits.maxTokenCount + 1)) ∧
      (∃ t, at? text Limits.maxTokenCount = .ok (some t)) ∧
      ∃ (machine : Machine) (f : SourceFile), SourceFile.loaded ⟨"a.py"⟩ machine = .ok f ∧
        f.text = "x = 1" ∧ ∀ n, tokenize f.text ≠ .error (.inputTooLarge n) := by
  intro text
  have hchars : text.toList = List.replicate (Limits.maxTokenCount + 1) '+' :=
    String.toList_ofList
  have hsize : text.utf8ByteSize = Limits.maxTokenCount + 1 := by
    rw [← byteLength_toList, hchars]
    exact byteLength_replicate_of_one rfl _
  have hle : text.utf8ByteSize ≤ Limits.maxInputSize := by
    rw [hsize]
    decide
  obtain ⟨-, hscanned, -⟩ := limits_exact.1 text
  obtain ⟨ts, hscan, hmany, -, hat⟩ := hscanned hle
  obtain ⟨-, htokens⟩ := scanAll_eq_ok_iff.1 hscan
  have hlone : ∀ x ∈ text.toList, isBlank x = false ∧ isWordStart x = false := by
    intro x hx
    rw [hchars] at hx
    rw [List.eq_of_mem_replicate hx]
    decide
  refine ⟨(hmany _).2 ⟨?_, rfl⟩, ?_, ?_⟩
  · have hlength : ts.length = text.toList.length := by
      rw [htokens]
      exact Cursor.length_tokens_of_lone hlone 0 0
    rw [hlength, hchars, List.length_replicate]
    exact Nat.lt_succ_self _
  · have hlast : text.toList[Limits.maxTokenCount]? = some '+' := by
      rw [hchars]
      exact List.getElem?_replicate_of_lt (Nat.lt_succ_self _)
    obtain ⟨u, hu, hcovers⟩ := (Cursor.exists_covers_ofText_iff text _).2 ⟨'+', hlast, by decide⟩
    rw [← htokens] at hu
    have hfound : (ts.find? (·.covers Limits.maxTokenCount)).isSome = true :=
      List.find?_isSome.2 ⟨u, hu, hcovers⟩
    obtain ⟨t, ht⟩ := Option.isSome_iff_exists.1 hfound
    exact ⟨t, by rw [(hat _).1, ht]⟩
  · let machine : Machine :=
      ⟨(FileTree.empty []).put ["a.py"] (.file "x = 1".toUTF8 ⟨1, 0⟩), #[], ⟨1, 0⟩⟩
    have hsteady := Machine.steady ⟨"a.py"⟩
    have hsight : sight ⟨"a.py"⟩ machine = ⟨some ⟨1, 0⟩, .ok 5, .ok "x = 1".toUTF8⟩ := rfl
    have hload : SourceFile.loaded ⟨"a.py"⟩ machine = .ok (.ofText ⟨"a.py"⟩ "x = 1" 5) := by
      rw [hsteady.loaded_eq, hsight]
      rfl
    have hnever := (limits_exact.2 Machine _ machine _ hload).2 hsteady (Machine.measured _ machine)
    exact ⟨machine, _, hload, rfl, fun n => (hnever n).1⟩

/-- Sources can be too large for a scan: neither a file that holds still nor one that tells the
number of its bytes is always small enough, if it does not do both. -/
theorem not_loaded_scans :
    (¬ ∀ (σ : Type) [Host (StateM σ)] (path : Path) (machine : σ) (f : SourceFile),
      Steady σ path → SourceFile.loaded path machine = .ok f →
        ∀ n, tokenize f.text ≠ .error (.inputTooLarge n)) ∧
    ¬ ∀ (σ : Type) [Host (StateM σ)] (path : Path) (machine : σ) (f : SourceFile),
      (sight path machine).Measured → SourceFile.loaded path machine = .ok f →
        ∀ n, tokenize f.text ≠ .error (.inputTooLarge n) := by
  constructor
  · intro h
    exact h Pipe ⟨"/dev/stdin"⟩ _ _ (Pipe.steady _) (Pipe.loaded_eq _ overlong) _
      tokenize_overlong
  · intro h
    exact h Timeline ⟨"a.py"⟩ _ _ (Timeline.measured_numbered _ _ _ _)
      (Timeline.loaded_grown _ overlong) _ tokenize_overlong

end Glossary
