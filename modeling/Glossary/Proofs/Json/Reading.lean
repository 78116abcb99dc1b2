import Glossary.Json.Writer
import Glossary.Proofs.Json.Count

/-!
# Reading what was written

A value that is written and read again is the same value, in either layout. It
must not hold half of a surrogate pair, which is written as `null`, and its only
numbers are counts. Strings may hold anything: every character is written so that
it is read as one piece, and the piece makes that character again. A number has
no mark at its end, so it is read back where what follows does not carry it on,
and nothing that is written behind a value does.

The reader hands on less fuel with every call. The length of a value's own text
is enough for it, because every item of an array and every member of an object
takes at least the character behind it.

## Main results

* `Reader.string_encode` — a string between quotes is read back.
* `Reader.items_tail`, `Reader.members_tail` — so are items and members.
* `Reader.returns_of_plain` — a value is read back, whatever it is parted from.
* `Value.read?_render` — and so is a whole text.
-/

namespace Glossary.Json

/-- A value in which every string is a text and every number is a count. -/
inductive Value.Plain : Value → Prop where
  | null : Plain .null
  | bool (b : Bool) : Plain (.bool b)
  | number (n : Nat) : Plain (.number (toString n))
  | string (s : String) : Plain (.string s)
  | array {items : List Value} (h : ∀ v ∈ items, Plain v) : Plain (.array items)
  | object {members : List (String × Value)} (h : ∀ m ∈ members, Plain m.2) :
      Plain (.object members)

/-! ## Texts of arrays and objects -/

namespace Writer

theorem render_array (l : Layout) (items : List Value) :
    render l (.array items) = l.wrap '[' ']' (items.map (render l.inner)) := by
  rw [render]
  simp

theorem render_count (l : Layout) (n : Nat) :
    render l (.number (toString n)) = Nat.toDigits 10 n := by
  rw [render, Nat.toString_eq_repr, Nat.toList_repr]

/-- A member with its key in front. -/
def renderMember (l : Layout) (m : String × Value) : List Char :=
  encode m.1 ++ l.colon ++ render l.inner m.2

theorem render_object (l : Layout) (members : List (String × Value)) :
    render l (.object members) = l.wrap '\x7b' '\x7d' (members.map (renderMember l)) := by
  rw [render]
  show l.wrap _ _ (members.attach.map fun m => renderMember l m.1) = _
  rw [List.attach_map_val]

namespace Layout

/-- What follows an item: the items that are left, each behind a comma, and the
closing bracket. -/
def tail (l : Layout) (closing : Char) : List (List Char) → List Char
  | [] => l.newline ++ [closing]
  | item :: items => ',' :: (l.inner.newline ++ (item ++ l.tail closing items))

theorem wrap_cons (l : Layout) (opening closing : Char) (item : List Char)
    (items : List (List Char)) :
    l.wrap opening closing (item :: items) =
      opening :: (l.inner.newline ++ (item ++ l.tail closing items)) := by
  have htail : (',' :: l.inner.newline).intercalate (item :: items) ++ l.newline ++ [closing] =
      item ++ l.tail closing items := by
    induction items generalizing item with
    | nil => simp [tail]
    | cons next items ih =>
        rw [List.intercalate_cons_cons, tail, ← ih next]
        simp
  rw [wrap, if_neg (List.cons_ne_nil _ _), ← htail]
  simp

theorem length_tail_pos (l : Layout) (closing : Char) (items : List (List Char)) :
    0 < (l.tail closing items).length := by
  cases items with
  | nil => simp [tail]
  | cons item items => simp [tail]

theorem length_tail_cons (l : Layout) (closing : Char) (item : List Char)
    (items : List (List Char)) :
    (item ++ l.tail closing items).length < (l.tail closing (item :: items)).length := by
  simp only [tail, List.length_cons, List.length_append]
  omega

end Layout

end Writer

namespace Reader

open Writer

/-! ## Strings -/

theorem unit?_hexDigit : ∀ n < 0x20,
    unit? '0' '0' (hexDigit (n / 16)) (hexDigit (n % 16)) = some n := by
  decide

theorem text?_char (c : Char) (ps : List Piece) (out : Array Char) :
    text? (.char c :: ps) out = text? ps (out.push c) := by
  rw [text?]

/-- A unit below the surrogates is a character by itself, whatever follows. -/
theorem text?_unit {n : Nat} (h : n < 0xD800) (ps : List Piece) (out : Array Char) :
    text? (.unit n :: ps) out = text? ps (out.push (Char.ofNat n)) := by
  have hhigh : isHighUnit n = false := by simp [isHighUnit]; omega
  have hlow : isLowUnit n = false := by simp [isLowUnit]; omega
  cases ps with
  | nil => simp [text?, hhigh, hlow]
  | cons p ps =>
      cases p with
      | char c => simp [text?, hhigh, hlow]
      | unit m => simp [text?, hhigh, hlow]

/-- A written character is read as one piece, and the piece makes that character. -/
theorem exists_piece (c : Char) : ∃ p,
    (∀ rest found, pieces (encodeChar c ++ rest) found = pieces rest (found.push p)) ∧
      ∀ ps out, text? (p :: ps) out = text? ps (out.push c) := by
  unfold encodeChar
  split
  case h_8 _ hquote hslash _ _ _ _ _ =>
      by_cases hc : c.toNat < 0x20
      · refine ⟨.unit c.toNat, ?_, ?_⟩
        · intro rest found
          simp [hc, pieces, unit?_hexDigit _ hc]
        · intro ps out
          rw [text?_unit (by omega), Char.ofNat_toNat]
      · refine ⟨.char c, ?_, text?_char c⟩
        intro rest found
        -- no quote and no backslash, which leaves the last equation
        have hplain : ¬(c.toNat < 0x20 ∨ c = '\\') := fun h => h.elim hc hslash
        rw [if_neg hc, List.singleton_append, pieces, if_neg hplain]
        · exact hquote
        · intro _ _ _ _ _ h
          exact (hslash h).elim
        · intro _ _ h
          exact (hslash h).elim
  all_goals
    refine ⟨.char _, ?_, text?_char _⟩
    intro rest found
    simp [pieces, escaped?]

theorem exists_pieces (s rest : List Char) (found : Array Piece) : ∃ ps,
    pieces (s.flatMap encodeChar ++ '"' :: rest) found = some (found.toList ++ ps, rest) ∧
      ∀ out, text? ps out = some (out.toList ++ s) := by
  induction s generalizing found with
  | nil => exact ⟨[], by simp [pieces], fun out => by simp [text?]⟩
  | cons c s ih =>
      obtain ⟨p, hpiece, htext⟩ := exists_piece c
      obtain ⟨ps, hps, hout⟩ := ih (found.push p)
      refine ⟨p :: ps, ?_, ?_⟩
      · rw [List.flatMap_cons, List.append_assoc, hpiece, hps]
        simp
      · intro out
        rw [htext, hout]
        simp

/-- A string is read back from what stands behind its opening quote. -/
theorem string_encode (s : String) (rest : List Char) :
    string (s.toList.flatMap encodeChar ++ '"' :: rest) = some (some s, rest) := by
  obtain ⟨ps, hps, hout⟩ := exists_pieces s.toList rest #[]
  rw [string, hps]
  simp [hout]

/-! ## Blanks -/

theorem skipBlanks_append {sp : List Char} (h : ∀ c ∈ sp, isBlank c = true) (s : List Char) :
    skipBlanks (sp ++ s) = skipBlanks s :=
  List.dropWhile_append_of_pos h

theorem skipBlanks_cons {c : Char} (h : isBlank c = false) (s : List Char) :
    skipBlanks (c :: s) = c :: s :=
  List.dropWhile_cons_of_neg (by simp [h])

theorem isBlank_newline (l : Layout) : ∀ c ∈ l.newline, isBlank c = true := by
  intro c hc
  cases l with
  | compact => cases hc
  | pretty depth =>
      rcases List.mem_cons.1 hc with rfl | hc
      · rfl
      · rw [List.eq_of_mem_replicate hc]
        rfl

theorem exists_colon (l : Layout) :
    ∃ sp, l.colon = ':' :: sp ∧ ∀ c ∈ sp, isBlank c = true := by
  cases l with
  | compact => exact ⟨[], rfl, by simp⟩
  | pretty depth => exact ⟨[' '], rfl, by simp [isBlank]⟩

theorem value_append {sp : List Char} (h : ∀ c ∈ sp, isBlank c = true) (fuel : Nat)
    (s : List Char) : value fuel (sp ++ s) = value fuel s := by
  cases fuel with
  | zero => rfl
  | succ fuel => rw [value, value, skipBlanks_append h]

theorem skipBlanks_tail_nil (l : Layout) {closing : Char} (h : isBlank closing = false)
    (rest : List Char) : skipBlanks (l.tail closing [] ++ rest) = closing :: rest := by
  rw [Layout.tail, List.append_assoc, skipBlanks_append (isBlank_newline l)]
  exact skipBlanks_cons h rest

theorem skipBlanks_tail_cons (l : Layout) (closing : Char) (item : List Char)
    (items : List (List Char)) (rest : List Char) :
    skipBlanks (l.tail closing (item :: items) ++ rest) =
      ',' :: (l.inner.newline ++ (item ++ (l.tail closing items ++ rest))) := by
  rw [Layout.tail, List.cons_append, skipBlanks_cons rfl]
  simp only [List.append_assoc]

/-- What is written behind an item is parted from it. -/
theorem parted_tail (l : Layout) {closing : Char} (h : Parted [closing])
    (items : List (List Char)) (rest : List Char) : Parted (l.tail closing items ++ rest) := by
  cases items with
  | cons item items => exact parted_cons (by decide) _
  | nil =>
      cases l with
      | compact => exact parted_cons (h closing rfl) rest
      | pretty depth => exact parted_cons (by decide) _

/-- The text of a value begins with a character that is neither blank nor a
closing bracket. -/
theorem exists_render {v : Value} (h : v.Plain) (l : Layout) :
    ∃ c cs, render l v = c :: cs ∧ isBlank c = false ∧ c ≠ ']' := by
  cases h with
  | null => exact ⟨'n', _, by rw [render]; rfl, rfl, by decide⟩
  | bool b =>
      cases b with
      | false => exact ⟨'f', _, by rw [render]; rfl, rfl, by decide⟩
      | true => exact ⟨'t', _, by rw [render]; rfl, rfl, by decide⟩
  | number n =>
      obtain ⟨d, ds, hds, hd⟩ := exists_toDigits n
      rw [render_count, hds]
      exact ⟨d, ds, rfl, isBlank_of_isDigit hd, ne_of_isDigit hd (by decide)⟩
  | string s => exact ⟨'"', _, by rw [render]; rfl, rfl, by decide⟩
  | @array items _ =>
      rw [render_array]
      cases items with
      | nil => exact ⟨'[', _, rfl, rfl, by decide⟩
      | cons v items => exact ⟨'[', _, l.wrap_cons _ _ _ _, rfl, by decide⟩
  | @object members _ =>
      rw [render_object]
      cases members with
      | nil => exact ⟨'\x7b', _, rfl, rfl, by decide⟩
      | cons m members => exact ⟨'\x7b', _, l.wrap_cons _ _ _ _, rfl, by decide⟩

/-! ## Items and members -/

/-- A value is read back from its text, where what follows is parted from it. -/
def Returns (l : Layout) (v : Value) : Prop :=
  ∀ fuel rest, Parted rest → (render l v).length ≤ fuel →
    value fuel (render l v ++ rest) = some (v, rest)

/-- One item is read, and what follows it decides how to go on. -/
theorem items_render {l : Layout} {v : Value} (h : Returns l.inner v) {sp : List Char}
    (hsp : ∀ c ∈ sp, isBlank c = true) {fuel : Nat}
    (hfuel : (render l.inner v).length ≤ fuel) {t : List Char} (ht : Parted t)
    (found : List Value) :
    items (fuel + 1) (sp ++ (render l.inner v ++ t)) found =
      match skipBlanks t with
      | ',' :: r => items fuel r (v :: found)
      | ']' :: r => some (.array (v :: found).reverse, r)
      | _ => none := by
  have hvalue : value fuel (sp ++ (render l.inner v ++ t)) = some (v, t) := by
    rw [value_append hsp, h fuel t ht hfuel]
  rw [items]
  exact hvalue ▸ rfl

/-- One member is read, and what follows it decides how to go on. -/
theorem members_renderMember {l : Layout} {m : String × Value} (h : Returns l.inner m.2)
    {sp : List Char} (hsp : ∀ c ∈ sp, isBlank c = true) {fuel : Nat}
    (hfuel : (renderMember l m).length ≤ fuel) {t : List Char} (ht : Parted t)
    (found : List (String × Value)) :
    members (fuel + 1) (sp ++ (renderMember l m ++ t)) found true =
      match skipBlanks t with
      | ',' :: r => members fuel r (m :: found) true
      | '\x7d' :: r => some (.object (m :: found).reverse, r)
      | _ => none := by
  have hvalue : (render l.inner m.2).length ≤ fuel := by
    rw [renderMember, List.length_append] at hfuel
    omega
  obtain ⟨gap, hcolon, hgap⟩ := exists_colon l
  rw [members, skipBlanks_append hsp]
  simp only [renderMember, encode, hcolon, List.cons_append, List.append_assoc, List.nil_append,
    skipBlanks_cons (show isBlank '"' = false from rfl),
    skipBlanks_cons (show isBlank ':' = false from rfl), string_encode, value_append hgap,
    h fuel t ht hvalue]
  rfl

/-- All items from one on are read, up to the closing bracket. -/
theorem items_tail {l : Layout} {v : Value} {vs : List Value}
    (h : ∀ w ∈ v :: vs, Returns l.inner w) {sp : List Char} (hsp : ∀ c ∈ sp, isBlank c = true)
    {fuel : Nat} (rest : List Char) (found : List Value)
    (hfuel : (render l.inner v ++ l.tail ']' (vs.map (render l.inner))).length ≤ fuel) :
    items fuel
        (sp ++ (render l.inner v ++ (l.tail ']' (vs.map (render l.inner)) ++ rest))) found =
      some (.array (found.reverse ++ v :: vs), rest) := by
  have hclosing : Parted [']'] := parted_cons (by decide) []
  induction vs generalizing v sp fuel found with
  | nil =>
      have hpos := l.length_tail_pos ']' []
      rw [List.map_nil, List.length_append] at hfuel
      obtain ⟨fuel, rfl⟩ : ∃ n, fuel = n + 1 := ⟨fuel - 1, by omega⟩
      rw [items_render (h v (by simp)) hsp (by omega) (parted_tail l hclosing _ _), List.map_nil,
        skipBlanks_tail_nil l rfl]
      simp
  | cons w vs ih =>
      have hlt := l.length_tail_cons ']' (render l.inner w) (vs.map (render l.inner))
      rw [List.map_cons, List.length_append] at hfuel
      obtain ⟨fuel, rfl⟩ : ∃ n, fuel = n + 1 := ⟨fuel - 1, by omega⟩
      rw [items_render (h v (by simp)) hsp (by omega) (parted_tail l hclosing _ _), List.map_cons,
        skipBlanks_tail_cons]
      show items fuel _ (v :: found) = _
      rw [ih (fun u hu => h u (List.mem_cons_of_mem _ hu)) (isBlank_newline _) (v :: found)
        (by omega)]
      simp

/-- All members from one on are read, up to the closing brace. -/
theorem members_tail {l : Layout} {m : String × Value} {ms : List (String × Value)}
    (h : ∀ n ∈ m :: ms, Returns l.inner n.2) {sp : List Char}
    (hsp : ∀ c ∈ sp, isBlank c = true) {fuel : Nat} (rest : List Char)
    (found : List (String × Value))
    (hfuel : (renderMember l m ++ l.tail '\x7d' (ms.map (renderMember l))).length ≤ fuel) :
    members fuel
        (sp ++ (renderMember l m ++ (l.tail '\x7d' (ms.map (renderMember l)) ++ rest))) found true =
      some (.object (found.reverse ++ m :: ms), rest) := by
  have hclosing : Parted ['\x7d'] := parted_cons (by decide) []
  induction ms generalizing m sp fuel found with
  | nil =>
      have hpos := l.length_tail_pos '\x7d' []
      rw [List.map_nil, List.length_append] at hfuel
      obtain ⟨fuel, rfl⟩ : ∃ n, fuel = n + 1 := ⟨fuel - 1, by omega⟩
      rw [members_renderMember (h m (by simp)) hsp (by omega) (parted_tail l hclosing _ _),
        List.map_nil, skipBlanks_tail_nil l rfl]
      simp
  | cons n ms ih =>
      have hlt := l.length_tail_cons '\x7d' (renderMember l n) (ms.map (renderMember l))
      rw [List.map_cons, List.length_append] at hfuel
      obtain ⟨fuel, rfl⟩ : ∃ n, fuel = n + 1 := ⟨fuel - 1, by omega⟩
      rw [members_renderMember (h m (by simp)) hsp (by omega) (parted_tail l hclosing _ _),
        List.map_cons, skipBlanks_tail_cons]
      show members fuel _ (m :: found) true = _
      rw [ih (fun u hu => h u (List.mem_cons_of_mem _ hu)) (isBlank_newline _) (m :: found)
        (by omega)]
      simp

/-! ## Values -/

theorem word_append (w : String) (v : Value) (rest : List Char) :
    word w v (w.toList ++ rest) = some (v, rest) := by
  rw [word, if_pos (List.isPrefixOf_iff_prefix.2 (List.prefix_append _ _)),
    ← String.length_toList, List.drop_left]

/-- Whatever is read back has a text, so that no fuel is not enough. -/
theorem Returns.of_succ {l : Layout} {v : Value} (hplain : v.Plain)
    (h : ∀ fuel rest, Parted rest → (render l v).length ≤ fuel + 1 →
      value (fuel + 1) (render l v ++ rest) = some (v, rest)) : Returns l v := by
  intro fuel rest hrest hfuel
  obtain ⟨c, cs, hc, -, -⟩ := exists_render hplain l
  cases fuel with
  | zero => simp [hc] at hfuel
  | succ fuel => exact h fuel rest hrest hfuel

theorem returns_array {l : Layout} {vs : List Value} (hplain : ∀ v ∈ vs, v.Plain)
    (h : ∀ v ∈ vs, Returns l.inner v) : Returns l (.array vs) := by
  refine .of_succ (.array hplain) ?_
  intro fuel rest _ hfuel
  rw [render_array] at hfuel ⊢
  cases vs with
  | nil => rfl
  | cons v vs =>
      obtain ⟨c, cs, hc, hblank, hclosing⟩ := exists_render (hplain v (by simp)) l.inner
      rw [List.map_cons, Layout.wrap_cons] at hfuel ⊢
      simp only [List.length_cons, List.length_append] at hfuel
      have hlength : (render l.inner v ++ l.tail ']' (vs.map (render l.inner))).length ≤ fuel := by
        rw [List.length_append]
        omega
      have hitems := items_tail h (List.forall_mem_nil _) rest [] hlength
      rw [List.cons_append, value, skipBlanks_cons rfl]
      simp only [List.append_assoc, skipBlanks_append (isBlank_newline _), hc, List.nil_append,
        List.cons_append, skipBlanks_cons hblank] at hitems ⊢
      simp [hclosing, hitems]

theorem returns_object {l : Layout} {ms : List (String × Value)} (hplain : ∀ m ∈ ms, m.2.Plain)
    (h : ∀ m ∈ ms, Returns l.inner m.2) : Returns l (.object ms) := by
  refine .of_succ (.object hplain) ?_
  intro fuel rest _ hfuel
  rw [render_object] at hfuel ⊢
  cases ms with
  | nil => rfl
  | cons m ms =>
      obtain ⟨cs, hcs⟩ : ∃ cs, renderMember l m = '"' :: cs := ⟨_, rfl⟩
      rw [List.map_cons, Layout.wrap_cons] at hfuel ⊢
      simp only [List.length_cons, List.length_append] at hfuel
      have hlength : (renderMember l m ++ l.tail '\x7d' (ms.map (renderMember l))).length ≤
          fuel := by
        rw [List.length_append]
        omega
      have hmembers := members_tail h (List.forall_mem_nil _) rest [] hlength
      rw [List.cons_append, value, skipBlanks_cons rfl]
      simp only [List.append_assoc, skipBlanks_append (isBlank_newline _), hcs, List.nil_append,
        List.cons_append, skipBlanks_cons (show isBlank '"' = false from rfl)] at hmembers ⊢
      simp [hmembers]

/-- A value is read back from its text. -/
theorem returns_of_plain {v : Value} (h : v.Plain) (l : Layout) : Returns l v := by
  induction h generalizing l with
  | null =>
      refine .of_succ .null ?_
      intro fuel rest _ _
      rw [render]
      exact word_append "null" .null rest
  | bool b =>
      refine .of_succ (.bool b) ?_
      intro fuel rest _ _
      cases b with
      | false =>
          rw [render]
          exact word_append "false" (.bool false) rest
      | true =>
          rw [render]
          exact word_append "true" (.bool true) rest
  | number n =>
      refine .of_succ (.number n) ?_
      intro fuel rest hrest _
      obtain ⟨d, ds, hds, hd⟩ := exists_toDigits n
      have hnumber := number_toDigits n hrest
      rw [hds, List.cons_append] at hnumber
      have hne : ∀ c, c.isDigit = false → d ≠ c := fun c => ne_of_isDigit hd
      rw [render_count, hds, List.cons_append, value, skipBlanks_cons (isBlank_of_isDigit hd)]
      simp only [hne '"' rfl, hne '[' rfl, hne '\x7b' rfl, hne 'n' rfl, hne 't' rfl, hne 'f' rfl,
        if_false, hnumber]
      rw [Option.map_some, ← hds, ← Nat.toList_repr, String.ofList_toList]
      rfl
  | string s =>
      refine .of_succ (.string s) ?_
      intro fuel rest _ _
      rw [render, encode, List.cons_append, List.cons_append, value, skipBlanks_cons rfl]
      simp [string_encode]
  | array hplain ih => exact returns_array hplain fun v hv => ih v hv l.inner
  | object hplain ih => exact returns_object hplain fun m hm => ih m hm l.inner

end Reader

/-- A written text is read back as the value that was written. -/
theorem Value.read?_render {v : Value} (h : v.Plain) (l : Writer.Layout) :
    Value.read? (String.ofList (Writer.render l v)) = some v := by
  have hvalue := Reader.returns_of_plain h l (2 * (Writer.render l v).length + 2) []
    Reader.parted_nil (by omega)
  rw [List.append_nil] at hvalue
  rw [Value.read?, String.toList_ofList]
  simp only [hvalue]
  rfl

end Glossary.Json
