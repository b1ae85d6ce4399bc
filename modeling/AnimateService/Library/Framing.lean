import Mathlib.Data.List.Basic

/-!
# Bounded frames of a stream

A stream is cut behind every end mark and, where none comes in time, behind every `limit` letters
since the last cut. The cuts do not depend on the pieces in which the stream arrives: what is left
behind the last cut of one piece is the front of what is cut next.
-/
namespace Framing

variable {Letter : Type}

/-- The frames of a stream behind a frame that has begun, and the frame that it leaves begun. -/
def split (isEnd : Letter → Bool) (limit : Nat) (begun : List Letter) :
    List Letter → List (List Letter) × List Letter
  | [] => ([], begun)
  | letter :: rest =>
    if isEnd letter || (begun ++ [letter]).length = limit then
      ((begun ++ [letter]) :: (split isEnd limit [] rest).1, (split isEnd limit [] rest).2)
    else split isEnd limit (begun ++ [letter]) rest

/-- A frame that has begun: no end mark has come, and the limit has not been reached. -/
structure Begun (isEnd : Letter → Bool) (limit : Nat) (begun : List Letter) : Prop where
  /-- No letter of it is an end mark. -/
  plain : ∀ letter ∈ begun, isEnd letter = false
  /-- It is below the limit. -/
  short : begun.length < limit

/-- A frame: its last letter is its only end mark or brings it to the limit. -/
structure Complete (isEnd : Letter → Bool) (limit : Nat) (frame : List Letter) : Prop where
  /-- It is a frame that had begun, with one more letter. -/
  ends : ∃ begun last, frame = begun ++ [last] ∧ Begun isEnd limit begun ∧
    (isEnd last = true ∨ frame.length = limit)

variable {isEnd : Letter → Bool} {limit : Nat} {begun text : List Letter}

/-- A frame has begun with nothing. -/
theorem begun_nil (positive : 0 < limit) : Begun isEnd limit [] :=
  ⟨by simp, positive⟩

/-- One more letter that is no end mark and does not reach the limit. -/
theorem Begun.snoc (open_ : Begun isEnd limit begun) {letter : Letter}
    (goes_on : ¬ (isEnd letter || (begun ++ [letter]).length = limit) = true) :
    Begun isEnd limit (begun ++ [letter]) := by
  simp only [Bool.or_eq_true, decide_eq_true_eq, not_or, Bool.not_eq_true] at goes_on
  obtain ⟨plain, below⟩ := goes_on
  refine ⟨fun other member => ?_, ?_⟩
  · rcases List.mem_append.mp member with old | new
    · exact open_.plain other old
    · rw [List.mem_singleton.mp new]
      exact plain
  · have short := open_.short
    rw [List.length_append, List.length_singleton] at below ⊢
    omega

/-- A stream in two pieces is cut as one. -/
theorem split_append (begun front back : List Letter) :
    split isEnd limit begun (front ++ back) =
      ((split isEnd limit begun front).1 ++
          (split isEnd limit (split isEnd limit begun front).2 back).1,
        (split isEnd limit (split isEnd limit begun front).2 back).2) := by
  induction front generalizing begun with
  | nil => rfl
  | cons letter front ih =>
    simp only [List.cons_append, split]
    split
    · rw [ih]
      rfl
    · exact ih _

/-- Nothing is lost, added or moved. -/
theorem split_flatten (begun text : List Letter) :
    (split isEnd limit begun text).1.flatten ++ (split isEnd limit begun text).2 =
      begun ++ text := by
  induction text generalizing begun with
  | nil => simp [split]
  | cons letter text ih =>
    simp only [split]
    split
    · have rest := ih []
      rw [List.nil_append] at rest
      rw [List.flatten_cons, List.append_assoc, rest, List.append_assoc, List.singleton_append]
    · rw [ih, List.append_assoc, List.singleton_append]

/-- What is left is a frame that has begun. -/
theorem split_begun (open_ : Begun isEnd limit begun) (text : List Letter) :
    Begun isEnd limit (split isEnd limit begun text).2 := by
  induction text generalizing begun with
  | nil => exact open_
  | cons letter text ih =>
    simp only [split]
    split
    · exact ih (begun_nil (Nat.zero_lt_of_lt open_.short))
    · rename_i goes_on
      exact ih (open_.snoc goes_on)

/-- The letters of a frame that has begun cut nothing. -/
theorem split_of_begun (open_ : Begun isEnd limit (begun ++ text)) :
    split isEnd limit begun text = ([], begun ++ text) := by
  induction text generalizing begun with
  | nil => rw [split, List.append_nil]
  | cons letter text ih =>
    have whole : begun ++ letter :: text = (begun ++ [letter]) ++ text := by simp
    have plain : isEnd letter = false := open_.plain letter (by simp)
    have short := open_.short
    have below : (begun ++ [letter]).length ≠ limit := by
      rw [whole, List.length_append] at short
      omega
    rw [whole] at open_ ⊢
    simp only [split, plain, below, decide_false, Bool.or_self, Bool.false_eq_true, ↓reduceIte]
    exact ih open_

/-- Cutting behind a frame that has begun is cutting all of it. -/
theorem split_eq_split_nil (open_ : Begun isEnd limit begun) (text : List Letter) :
    split isEnd limit begun text = split isEnd limit [] (begun ++ text) := by
  rw [split_append, @split_of_begun _ isEnd limit [] begun open_, List.nil_append,
    List.nil_append]

/-- The letters of a frame are cut as that frame. -/
theorem split_of_complete {frame : List Letter} (complete : Complete isEnd limit frame)
    (text : List Letter) :
    split isEnd limit [] (frame ++ text) =
      (frame :: (split isEnd limit [] text).1, (split isEnd limit [] text).2) := by
  obtain ⟨begun, last, rfl, open_, ends⟩ := complete.ends
  have cut : (isEnd last || (begun ++ [last]).length = limit) = true := by
    simpa only [Bool.or_eq_true, decide_eq_true_eq] using ends
  rw [List.append_assoc, ← split_eq_split_nil open_, List.singleton_append, split, if_pos cut]

/-- A stream of frames is cut into these frames, and there is no other way to cut it. -/
theorem split_frames {frames : List (List Letter)} {left : List Letter}
    (complete : ∀ frame ∈ frames, Complete isEnd limit frame) (open_ : Begun isEnd limit left) :
    split isEnd limit [] (frames.flatten ++ left) = (frames, left) := by
  induction frames with
  | nil => exact split_of_begun open_
  | cons frame frames ih =>
    rw [List.flatten_cons, List.append_assoc,
      split_of_complete (complete frame List.mem_cons_self),
      ih fun other member => complete other (List.mem_cons_of_mem frame member)]

end Framing
