import Glossary.Log.Event
import Glossary.Proofs.Text.Boundary

/-!
# Messages that are cut

An event keeps a message within the limit as it is. A longer one is cut behind the
last character that ends within the limit, and three dots tell that something is
missing. Events report what went wrong, so cutting must not go wrong itself: a place
to cut is always found, and never inside a character.

The characters that are kept can be found from either end. Taking them from the front
while there is room gives the longest beginning that fits, and going back from the limit
gives the place where it ends.

## Main results

* `Event.longestWithin_takeBytes` — what is taken from the front is the longest beginning.
* `Event.shortened?_eq` — going back from the limit gives the same message.
* `Event.message_make` — the message of an event.
-/

namespace Glossary

namespace Event

/-! ## From the front -/

theorem takeBytes_eq_append (limit : Nat) (s : List Char) (taken : Array Char) :
    takeBytes limit s taken = taken.toList ++ takeBytes limit s #[] := by
  induction s generalizing limit taken with
  | nil => simp [takeBytes]
  | cons c s ih =>
      rw [takeBytes, takeBytes]
      split
      · rw [ih _ (taken.push c), ih _ (#[].push c)]
        simp
      · simp

theorem takeBytes_cons (limit : Nat) (c : Char) (s : List Char) :
    takeBytes limit (c :: s) #[] =
      if c.utf8Size ≤ limit then c :: takeBytes (limit - c.utf8Size) s #[] else [] := by
  rw [takeBytes]
  split
  · rw [takeBytes_eq_append]
    rfl
  · rfl

/-- What is taken while there is room is the longest beginning that fits. -/
theorem longestWithin_takeBytes (limit : Nat) (s : List Char) :
    Text.LongestWithin limit s (takeBytes limit s #[]) := by
  induction s generalizing limit with
  | nil => exact .nil
  | cons c s ih =>
      rw [takeBytes_cons]
      split
      · next hfits => exact (ih _).cons hfits
      · next hfits => exact .stop (Nat.not_le.1 hfits)

/-! ## From the limit -/

/-- A message that is too long, cut at the last boundary of its characters within the limit.
There is none where the way back finds no boundary, or where the cut would split a character. -/
def shortened? (message : String) : Option String :=
  if Limits.maxLogMessageLength < message.utf8ByteSize then do
    let cut ← Text.lastBoundary? message Limits.maxLogMessageLength
    let kept ← Text.slice? message 0 cut
    some (kept ++ "...")
  else some message

/-- The message that events have: going back from the limit never fails. -/
theorem shortened?_eq (message : String) : shortened? message = some (truncate message) := by
  have hlongest := longestWithin_takeBytes Limits.maxLogMessageLength message.toList
  rw [shortened?, truncate]
  split
  · rw [hlongest.lastBoundary?_eq, Option.bind_eq_bind, Option.bind_some, hlongest.slice?_eq]
    rfl
  · rfl

/-! ## The message of an event -/

/-- A message within the limit is kept. A longer one gives its longest beginning within the limit,
which falls short of it by less than four bytes, and three dots. Going back from the limit to a
boundary of characters ends in every text, from every byte, at a boundary; in a message that is
too long it ends behind that beginning, the slice up to there is that beginning, and so the message
cut there is the one of the event. -/
theorem message_make (level : LogLevel) (code : Code) (message : String)
    (context : List (String × String)) :
    let stored := (make level code message context).message
    (message.utf8ByteSize ≤ Limits.maxLogMessageLength → stored = message) ∧
    (Limits.maxLogMessageLength < message.utf8ByteSize → ∃ p : String,
      stored = p ++ "..." ∧
      Text.LongestWithin Limits.maxLogMessageLength message.toList p.toList ∧
      Limits.maxLogMessageLength < p.utf8ByteSize + 4 ∧
      Text.lastBoundary? message Limits.maxLogMessageLength = some p.utf8ByteSize ∧
      Text.slice? message 0 p.utf8ByteSize = some p) ∧
    (∀ start, ∃ cut, Text.lastBoundary? message start = some cut ∧ cut ≤ start ∧
      String.Pos.Raw.IsValid message ⟨cut⟩) ∧
    shortened? message = some stored := by
  dsimp only
  refine ⟨fun hle => truncate_of_le hle, ?_, Text.exists_lastBoundary? message,
    shortened?_eq message⟩
  intro hlong
  have hlongest := longestWithin_takeBytes Limits.maxLogMessageLength message.toList
  generalize hp : takeBytes Limits.maxLogMessageLength message.toList #[] = p at hlongest
  have hstored : truncate message = String.ofList p ++ "..." := by
    rw [truncate, if_pos hlong, hp]
  rw [← byteLength_toList] at hlong
  refine ⟨String.ofList p, hstored, ?_, ?_, ?_, ?_⟩
  · rw [String.toList_ofList]
    exact hlongest
  · rw [utf8ByteSize_ofList]
    exact hlongest.lt_add_four hlong
  · rw [utf8ByteSize_ofList]
    exact hlongest.lastBoundary?_eq
  · rw [utf8ByteSize_ofList]
    exact hlongest.slice?_eq

/-- A letter of two bytes stands across the limit. -/
def straddling : String :=
  String.ofList (List.replicate (Limits.maxLogMessageLength - 1) 'x' ++ ['é'])

/-- It is left out as a whole, and so the message is cut one byte before the limit. -/
theorem message_make_straddling :
    Limits.maxLogMessageLength < straddling.utf8ByteSize ∧
    (make .info .plainInfo straddling []).message =
      String.ofList (List.replicate (Limits.maxLogMessageLength - 1) 'x') ++ "..." ∧
    Text.lastBoundary? straddling Limits.maxLogMessageLength =
      some (Limits.maxLogMessageLength - 1) ∧
    "é".utf8ByteSize ≤ Limits.maxLogMessageLength ∧
    (make .info .plainInfo "é" []).message = "é" := by
  have hchars : straddling.toList =
      List.replicate (Limits.maxLogMessageLength - 1) 'x' ++ ['é'] := String.toList_ofList
  have hxs : byteLength (List.replicate (Limits.maxLogMessageLength - 1) 'x') =
      Limits.maxLogMessageLength - 1 := byteLength_replicate_of_one rfl _
  have hall : byteLength straddling.toList = Limits.maxLogMessageLength + 1 := by
    rw [hchars, byteLength_append, hxs]
    rfl
  have hlong : Limits.maxLogMessageLength < straddling.utf8ByteSize := by
    rw [← byteLength_toList, hall]
    exact Nat.lt_succ_self _
  have hkept : Text.LongestWithin Limits.maxLogMessageLength straddling.toList
      (List.replicate (Limits.maxLogMessageLength - 1) 'x') := by
    refine ⟨?_, ?_, ?_⟩
    · rw [hchars]
      exact List.prefix_append _ _
    · rw [hxs]
      exact Nat.sub_le _ _
    · intro q hq hle
      rw [hchars, List.prefix_concat_iff, ← hchars] at hq
      rcases hq with hwhole | hq
      · rw [hwhole, hall] at hle
        exact absurd hle (Nat.not_succ_le_self _)
      · exact hq
  have hshort : "é".utf8ByteSize ≤ Limits.maxLogMessageLength := by decide
  obtain ⟨-, hcut, -, -⟩ := message_make .info .plainInfo straddling []
  obtain ⟨p, hstored, hlongest, -, hboundary, -⟩ := hcut hlong
  obtain ⟨hkeep, -⟩ := message_make .info .plainInfo "é" []
  have hp : p.toList = List.replicate (Limits.maxLogMessageLength - 1) 'x' :=
    hlongest.unique hkept
  refine ⟨hlong, ?_, ?_, hshort, hkeep hshort⟩
  · rw [hstored, ← hp, String.ofList_toList]
  · rw [hboundary, ← byteLength_toList, hp, hxs]

end Event

end Glossary
