import Mathlib.Data.List.Induction
import NouvaAgent.LiteralRedaction
import NouvaAgent.Reading.Lines

namespace NouvaAgent.LineSplitter

open Reading

def lineFeed : UInt16 := 10

def carriageReturn : UInt16 := 13

structure State where
  pending : Units := []
  lines : List Units := []
  deriving DecidableEq

def takeLines (s : State) : State :=
  match h : s.pending.idxOf? lineFeed with
  | none => s
  | some newlineIndex =>
    have : newlineIndex < s.pending.length := (List.idxOf?_eq_some_iff.mp h).1
    takeLines
      { pending := s.pending.drop (newlineIndex + 1)
        lines := s.lines ++ [withoutLast carriageReturn (s.pending.take newlineIndex)] }
termination_by s.pending.length
decreasing_by
  simp only [List.length_drop]
  omega

def push (s : State) (chunk : Units) : State :=
  takeLines { s with pending := s.pending ++ chunk }

def flush (s : State) : State :=
  if 0 < s.pending.length then
    { pending := [], lines := s.lines ++ [withoutLast carriageReturn s.pending] }
  else s

/-- The text split at its line feeds, without an empty last piece and without one carriage return at
the end of each piece. -/
def linesOf (text : Units) : List Units :=
  let pieces := text.splitOn lineFeed
  (if pieces.getLast? = some [] then pieces.dropLast else pieces).map (withoutLast carriageReturn)

def Holds (text : Units) (s : State) : Prop :=
  s.pending = unfinished lineFeed text ∧
    s.lines = (completed lineFeed text).map (withoutLast carriageReturn)

theorem takeLines_eq (s : State) : takeLines s =
    ⟨unfinished lineFeed s.pending,
      s.lines ++ (completed lineFeed s.pending).map (withoutLast carriageReturn)⟩ := by
  induction s using takeLines.induct with
  | case1 s hnone =>
    have hmem := List.idxOf?_eq_none_iff.mp hnone
    rw [takeLines]
    split
    · rw [unfinished_of_not_mem hmem, completed_of_not_mem hmem, List.map_nil, List.append_nil]
    · next hsome => exact absurd (hnone.symm.trans hsome) (by simp)
  | case2 s newlineIndex hsome _ ih =>
    obtain ⟨hlt, hat, hfirst⟩ := List.idxOf?_eq_some_iff.mp hsome
    have hpiece : lineFeed ∉ s.pending.take newlineIndex := by
      intro hmem
      obtain ⟨j, hj, hget⟩ := List.mem_iff_getElem.mp hmem
      rw [List.length_take] at hj
      exact hfirst j (by omega) (by simpa using hget)
    have hpending : s.pending =
        s.pending.take newlineIndex ++ lineFeed :: s.pending.drop (newlineIndex + 1) := by
      rw [← hat, List.getElem_cons_drop, List.take_append_drop]
    rw [takeLines]
    split
    · next hnone => exact absurd (hnone.symm.trans hsome) (by simp)
    · next index hindex =>
      obtain rfl : index = newlineIndex := Option.some.inj (hindex.symm.trans hsome)
      rw [ih]
      conv_rhs => rw [hpending, unfinished_cons hpiece, completed_cons hpiece]
      rw [List.map_cons, List.append_assoc]
      rfl

theorem Holds.push {text : Units} {s : State} (h : Holds text s) (chunk : Units) :
    Holds (text ++ chunk) (push s chunk) := by
  obtain ⟨hpending, hlines⟩ := h
  obtain ⟨hcompleted, hunfinished⟩ := pieces_append lineFeed text chunk
  unfold LineSplitter.push
  rw [takeLines_eq]
  dsimp only
  rw [hpending, hlines, ← List.map_append, ← hcompleted, ← hunfinished]
  exact ⟨rfl, rfl⟩

theorem holds_foldl (chunks : List Units) : Holds chunks.flatten (chunks.foldl push {}) := by
  induction chunks using List.reverseRecOn with
  | nil => exact ⟨rfl, rfl⟩
  | append_singleton chunks chunk ih =>
    rw [List.flatten_append, List.flatten_singleton, List.foldl_append]
    exact ih.push chunk

theorem Holds.flush {text : Units} {s : State} (h : Holds text s) :
    (flush s).lines = linesOf text := by
  obtain ⟨hpending, hlines⟩ := h
  have hpieces := completed_append_unfinished lineFeed text
  unfold LineSplitter.flush linesOf
  rw [← hpieces, hpending, hlines]
  dsimp only
  rw [List.getLast?_concat, List.dropLast_concat]
  by_cases hempty : unfinished lineFeed text = []
  · simpa [hempty] using hlines
  · rw [if_pos (List.length_pos_iff.mpr hempty), if_neg (by simpa using hempty), List.map_append]
    rfl

/-- However a text is cut into chunks, its lines are emitted. -/
theorem lines_do_not_depend_on_chunks (chunks : List Units) :
    (flush (chunks.foldl push {})).lines = linesOf chunks.flatten ∧
      ∀ others : List Units, others.flatten = chunks.flatten →
        (flush (others.foldl push {})).lines = (flush (chunks.foldl push {})).lines := by
  have hlines (cut : List Units) : (flush (cut.foldl push {})).lines = linesOf cut.flatten :=
    (holds_foldl cut).flush
  refine ⟨hlines chunks, fun others hsame => ?_⟩
  rw [hlines others, hlines chunks, hsame]

example : linesOf (units "a\r\n\r\nb\r") = [units "a", [], units "b"] := by decide +kernel

end NouvaAgent.LineSplitter
