/-
  VirtualService/Proofs/Deletion.lean
  ===================================
  **What a pattern leaves of a text.**

  A pattern is searched for from left to right, each time from where the last match
  has ended; there a match of nothing does not count.  This gives the spans of the
  text (`Regex.spans`).  What is left (`Regex.uncovered`) are the characters at the
  places that no span covers, and the loop that cuts the matches out leaves the same
  (`Regex.without_eq_uncovered`).

  Every match starts at or after the place of the search and ends within the text.
  With this the spans are in order, so the loop and the places can be compared piece
  by piece, and there are at most two searches for each place.
-/
import Mathlib.Data.List.Basic
import VirtualService.Regex.Match

namespace VirtualService.Regex

variable {r : Regex} {p : Program} {text : Array Char} {place low budget a b : Nat}

/-! ### Bounds of a match -/

theorem follow_bounds {fuel stop : Nat} {stack : List (Nat × Nat)} {visited : Array Bool}
    (within : ∀ entry ∈ stack, low ≤ entry.2 ∧ entry.2 ≤ text.size)
    (ends : (follow p text fuel stack visited).1 = some stop) : low ≤ stop ∧ stop ≤ text.size := by
  induction fuel generalizing stack visited with
  | zero => cases ends
  | succ fuel ih =>
    cases stack with
    | nil => cases ends
    | cons entry stack =>
      obtain ⟨step, place⟩ := entry
      obtain ⟨here, below⟩ := List.forall_mem_cons.mp within
      have stays (next : Nat) : low ≤ (next, place).2 ∧ (next, place).2 ≤ text.size := here
      rw [follow] at ends
      split at ends
      · exact ih below ends
      · split at ends
        · exact ih below ends
        · cases ends
          exact here
        · split at ends
          · next found =>
            split at ends
            · have before := (Array.getElem?_eq_some_iff.mp found).1
              have further : low ≤ place + 1 ∧ place + 1 ≤ text.size :=
                ⟨Nat.le_succ_of_le here.1, before⟩
              exact ih (List.forall_mem_cons.mpr ⟨further, below⟩) ends
            · exact ih below ends
          · exact ih below ends
        · split at ends
          · exact ih (List.forall_mem_cons.mpr ⟨stays _, below⟩) ends
          · exact ih below ends
        · next first second _ =>
          have both : ∀ entry ∈ (first, place) :: (second, place) :: stack,
              low ≤ entry.2 ∧ entry.2 ≤ text.size :=
            List.forall_mem_cons.mpr ⟨stays _, List.forall_mem_cons.mpr ⟨stays _, below⟩⟩
          exact ih both ends

theorem scan_bounds {count : Nat} {visited : Array Bool} (room : place + count ≤ text.size + 1)
    (found : scan p text budget count place visited = some (a, b)) :
    place ≤ a ∧ a ≤ b ∧ b ≤ text.size := by
  induction count generalizing place visited with
  | zero => cases found
  | succ count ih =>
    rw [scan] at found
    split at found
    · next stop visited' followed =>
      obtain ⟨rfl, rfl⟩ := Prod.mk.inj (Option.some.inj found)
      have start : ∀ entry ∈ [(p.start, place)], place ≤ entry.2 ∧ entry.2 ≤ text.size :=
        List.forall_mem_singleton.mpr ⟨Nat.le_refl _, by omega⟩
      exact ⟨Nat.le_refl _, follow_bounds start (congrArg Prod.fst followed)⟩
    · obtain ⟨after, rest⟩ := ih (by omega) found
      exact ⟨by omega, rest⟩

theorem find?_bounds (found : r.find? text place = some (a, b)) :
    place ≤ a ∧ a ≤ b ∧ b ≤ text.size := by
  by_cases beyond : text.size + 1 ≤ place
  · rw [find?, Nat.sub_eq_zero_of_le beyond] at found
    cases found
  · exact scan_bounds (by omega) found

theorem find?_beyond (beyond : text.size < place) : r.find? text place = none := by
  rw [find?, Nat.sub_eq_zero_of_le beyond]
  rfl

/-! ### Spans -/

/-- The next match from a place on; where another match has ended, a match of nothing does not
    count. -/
def next? (r : Regex) (text : Array Char) (place : Nat) (ended : Bool) : Option (Nat × Nat) :=
  (r.find? text place).bind fun span =>
    if ended ∧ span = (place, place) then r.find? text (place + 1) else some span

theorem next?_bounds {ended : Bool} (found : r.next? text place ended = some (a, b)) :
    place ≤ a ∧ a ≤ b ∧ b ≤ text.size ∧ (ended = true → place < b) := by
  obtain ⟨span, first, rest⟩ := Option.bind_eq_some_iff.mp found
  split at rest
  · have := find?_bounds rest
    exact ⟨by omega, by omega, by omega, fun _ => by omega⟩
  · next counts =>
    cases rest
    obtain ⟨start, order, inside⟩ := find?_bounds first
    refine ⟨start, order, inside, fun here => ?_⟩
    by_contra stays
    have same : a = place ∧ b = place := by omega
    exact counts ⟨here, by rw [same.1, same.2]⟩

/-- How many searches there can still be. -/
def searches (text : Array Char) (place : Nat) (ended : Bool) : Nat :=
  2 * (text.size - place) + (if ended then 0 else 1)

theorem searches_fewer {ended : Bool} (found : r.next? text place ended = some (a, b)) :
    searches text b true < searches text place ended := by
  have bounds := next?_bounds found
  cases ended with
  | false =>
    simp only [searches, if_true, Bool.false_eq_true, if_false]
    omega
  | true =>
    have further := bounds.2.2.2 rfl
    simp only [searches, if_true]
    omega

/-- The matches from a place on, in order. -/
def spans (r : Regex) (text : Array Char) (place : Nat) (ended : Bool) : List (Nat × Nat) :=
  match _found : r.next? text place ended with
  | none => []
  | some (a, b) => (a, b) :: spans r text b true
termination_by searches text place ended
decreasing_by exact searches_fewer _found

/-- No span covers a place. -/
def isClear (spans : List (Nat × Nat)) (place : Nat) : Bool :=
  spans.all fun span => place < span.1 || span.2 ≤ place

/-- The characters at the places that no span covers; the first is at the place `start`. -/
def clearOf (spans : List (Nat × Nat)) (start : Nat) (cs : List Char) : List Char :=
  ((cs.zipIdx start).filter fun entry => isClear spans entry.2).map Prod.fst

/-- What is left of a text: the characters at the places that no match covers. -/
def uncovered (r : Regex) (text : String) : String :=
  String.ofList (clearOf (r.spans text.toList.toArray 0 false) 0 text.toList)

theorem spans_none {ended : Bool} (nothing : r.next? text place ended = none) :
    r.spans text place ended = [] := by
  rw [spans]
  split
  · rfl
  · next found =>
    rw [nothing] at found
    cases found

theorem spans_some {ended : Bool} (found : r.next? text place ended = some (a, b)) :
    r.spans text place ended = (a, b) :: r.spans text b true := by
  rw [spans]
  split
  · next nothing =>
    rw [found] at nothing
    cases nothing
  · next found' =>
    rw [found] at found'
    cases found'
    rfl

theorem spans_start {ended : Bool} {span : Nat × Nat} (mem : span ∈ r.spans text place ended) :
    place ≤ span.1 := by
  fun_induction spans r text place ended with
  | case1 place ended nothing => cases mem
  | case2 place ended a b found ih =>
    have bounds := next?_bounds found
    rcases List.mem_cons.mp mem with rfl | later
    · exact bounds.1
    · exact Nat.le_trans bounds.1 (Nat.le_trans bounds.2.1 (ih later))

/-! ### What the spans leave -/

variable {spans : List (Nat × Nat)} {start : Nat} {cs : List Char}

theorem isClear_cons (i : Nat) : isClear ((a, b) :: spans) i =
    ((decide (i < a) || decide (b ≤ i)) && isClear spans i) := rfl

theorem isClear_before (later : ∀ span ∈ spans, b ≤ span.1) {i : Nat} (before : i < b) :
    isClear spans i = true := by
  refine List.all_eq_true.mpr fun span mem => ?_
  have := later span mem
  simp only [Bool.or_eq_true, decide_eq_true_eq]
  omega

theorem clearOf_append (xs ys : List Char) : clearOf spans start (xs ++ ys) =
    clearOf spans start xs ++ clearOf spans (start + xs.length) ys := by
  rw [clearOf, List.zipIdx_append, List.filter_append, List.map_append]
  rfl

theorem clearOf_clear (clear : ∀ i, start ≤ i → i < start + cs.length → isClear spans i = true) :
    clearOf spans start cs = cs := by
  have all : (cs.zipIdx start).filter (fun entry => isClear spans entry.2) = cs.zipIdx start := by
    rw [List.filter_eq_self]
    rintro ⟨c, i⟩ mem
    obtain ⟨after, before, -⟩ := List.mem_zipIdx mem
    exact clear i after before
  rw [clearOf, all, List.zipIdx_map_fst]

theorem clearOf_covered
    (covered : ∀ i, start ≤ i → i < start + cs.length → isClear spans i = false) :
    clearOf spans start cs = [] := by
  have nothing : (cs.zipIdx start).filter (fun entry => isClear spans entry.2) = [] := by
    rw [List.filter_eq_nil_iff]
    rintro ⟨c, i⟩ mem
    obtain ⟨after, before, -⟩ := List.mem_zipIdx mem
    simp [covered i after before]
  rw [clearOf, nothing, List.map_nil]

theorem clearOf_congr {spans' : List (Nat × Nat)}
    (alike : ∀ i, start ≤ i → isClear spans i = isClear spans' i) :
    clearOf spans start cs = clearOf spans' start cs := by
  have same : (cs.zipIdx start).filter (fun entry => isClear spans entry.2) =
      (cs.zipIdx start).filter (fun entry => isClear spans' entry.2) := by
    refine List.filter_congr ?_
    rintro ⟨c, i⟩ mem
    exact alike i (List.mem_zipIdx mem).1
  rw [clearOf, clearOf, same]

/-- What stands behind a place, cut at two places further on. -/
theorem drop_cut (first : place ≤ a) (second : a ≤ b) (cs : List Char) : cs.drop place =
    (cs.drop place).take (a - place) ++ ((cs.drop a).take (b - a) ++ cs.drop b) := by
  have behindFirst : (cs.drop place).drop (a - place) = cs.drop a := by
    rw [List.drop_drop, Nat.add_sub_cancel' first]
  have behindSecond : (cs.drop a).drop (b - a) = cs.drop b := by
    rw [List.drop_drop, Nat.add_sub_cancel' second]
  rw [← behindSecond, List.take_append_drop, ← behindFirst, List.take_append_drop]

theorem length_cut (second : a ≤ b) (inside : b ≤ cs.length) :
    ((cs.drop a).take (b - a)).length = b - a := by
  rw [List.length_take, List.length_drop]
  omega

/-- Before the first span all is left, within it nothing, and behind it what the others leave. -/
theorem clearOf_cons (first : place ≤ a) (second : a ≤ b) (inside : b ≤ cs.length)
    (later : ∀ span ∈ spans, b ≤ span.1) :
    clearOf ((a, b) :: spans) place (cs.drop place) =
      (cs.drop place).take (a - place) ++ clearOf spans b (cs.drop b) := by
  have lengthBefore := length_cut first (Nat.le_trans second inside)
  have lengthWithin := length_cut second inside
  have before : clearOf ((a, b) :: spans) place ((cs.drop place).take (a - place)) =
      (cs.drop place).take (a - place) := by
    refine clearOf_clear fun i after near => ?_
    rw [lengthBefore] at near
    have front : i < a := by omega
    rw [isClear_cons, isClear_before later (Nat.lt_of_lt_of_le front second), decide_eq_true front]
    rfl
  have within : clearOf ((a, b) :: spans) a ((cs.drop a).take (b - a)) = [] := by
    refine clearOf_covered fun i after near => ?_
    rw [lengthWithin] at near
    have inner : i < b := by omega
    rw [isClear_cons, decide_eq_false (Nat.not_lt.mpr after),
      decide_eq_false (Nat.not_le.mpr inner)]
    rfl
  have behind : clearOf ((a, b) :: spans) b (cs.drop b) = clearOf spans b (cs.drop b) := by
    refine clearOf_congr fun i after => ?_
    rw [isClear_cons, decide_eq_true after, Bool.or_true, Bool.true_and]
  calc clearOf ((a, b) :: spans) place (cs.drop place)
      = clearOf ((a, b) :: spans) place
          ((cs.drop place).take (a - place) ++ ((cs.drop a).take (b - a) ++ cs.drop b)) := by
        rw [← drop_cut first second]
    _ = (cs.drop place).take (a - place) ++ clearOf spans b (cs.drop b) := by
        rw [clearOf_append, clearOf_append, lengthBefore, lengthWithin,
          Nat.add_sub_cancel' first, Nat.add_sub_cancel' second, before, within, behind,
          List.nil_append]

/-! ### The loop -/

/-- The end of the last match, if the search goes on from one. -/
def lastEnd (place : Nat) (ended : Bool) : Option Nat := if ended then some place else none

theorem withoutFrom_none {fuel : Nat} {ended : Bool} (nothing : r.next? text place ended = none) :
    r.withoutFrom text fuel place (lastEnd place ended) = text.toList.drop place := by
  have rest : (text.extract place text.size).toList = text.toList.drop place := by
    simp [List.take_of_length_le]
  cases fuel with
  | zero => rw [withoutFrom, rest]
  | succ fuel =>
    rw [withoutFrom, rest]
    cases first : r.find? text place with
    | none => rfl
    | some span =>
      rw [next?, first, Option.bind_some] at nothing
      split at nothing
      · next same =>
        obtain ⟨rfl, rfl⟩ := same
        simp [lastEnd, nothing]
      · cases nothing

theorem withoutFrom_some {fuel : Nat} {ended : Bool}
    (found : r.next? text place ended = some (a, b)) :
    r.withoutFrom text (fuel + 1) place (lastEnd place ended) =
      (text.toList.drop place).take (a - place) ++ r.withoutFrom text fuel b (lastEnd b true) := by
  have piece : (text.extract place a).toList = (text.toList.drop place).take (a - place) := by
    simp
  rw [withoutFrom, ← piece]
  cases first : r.find? text place with
  | none => simp [next?, first] at found
  | some span =>
    rw [next?, first, Option.bind_some] at found
    split at found
    · next same =>
      obtain ⟨rfl, rfl⟩ := same
      have more : place < text.size := by
        by_contra past
        rw [find?_beyond (by omega)] at found
        cases found
      simp [lastEnd, found, more]
    · next counts =>
      cases found
      have other : ¬(a = b ∧ ended = true ∧ place = a) := by
        rintro ⟨rfl, here, rfl⟩
        exact counts ⟨here, rfl⟩
      simp [lastEnd, other]

theorem withoutFrom_eq {fuel : Nat} {ended : Bool} (enough : searches text place ended < fuel) :
    r.withoutFrom text fuel place (lastEnd place ended) =
      clearOf (r.spans text place ended) place (text.toList.drop place) := by
  -- each match uses up a search
  induction fuel generalizing place ended with
  | zero => exact absurd enough (Nat.not_lt_zero _)
  | succ fuel ih =>
    cases found : r.next? text place ended with
    | none => rw [withoutFrom_none found, spans_none found, clearOf_clear fun _ _ _ => rfl]
    | some span =>
      obtain ⟨a, b⟩ := span
      obtain ⟨first, second, inside, -⟩ := next?_bounds found
      have fewer := searches_fewer found
      rw [withoutFrom_some found, spans_some found, ih (by omega),
        clearOf_cons first second inside fun span mem => spans_start mem]

/-- Deletion leaves the characters at the places that no match covers. -/
theorem without_eq_uncovered (r : Regex) (s : String) : r.without s = r.uncovered s := by
  have enough : searches s.toList.toArray 0 false < 2 * s.toList.toArray.size + 2 := by
    simp only [searches, Bool.false_eq_true, if_false]
    omega
  exact congrArg String.ofList (withoutFrom_eq enough)

end VirtualService.Regex
