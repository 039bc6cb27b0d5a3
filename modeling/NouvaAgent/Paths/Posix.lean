import Mathlib.Data.List.Basic
import Mathlib.Data.List.Infix

namespace NouvaAgent.Paths

/-- What separates the names of a path, and what the names `.` and `..` are made of. -/
structure Alphabet (α : Type) where
  separator : α
  dot : α

namespace Alphabet

variable {α : Type} [DecidableEq α] (A : Alphabet α)

def here : List α := [A.dot]

def up : List α := [A.dot, A.dot]

def segments (path : List α) : List (List α) := path.splitOn A.separator

/-- Where a segment leads from a directory, which is the list of the names on the way to it. -/
def climb (names : List (List α)) (segment : List α) : List (List α) :=
  if segment = [] ∨ segment = A.here then names
  else if segment = A.up then names.dropLast
  else names ++ [segment]

def follow (names : List (List α)) (segments : List (List α)) : List (List α) :=
  segments.foldl A.climb names

def resolve (path : List α) : List (List α) := A.follow [] (A.segments path)

def isAbsolute (path : List α) : Bool := path.head? = some A.separator

/-- What a step of `normalizeString` does. A relative path keeps the `..` it begins with. -/
def simplify (allowAboveRoot : Bool) (names : List (List α)) (segment : List α) : List (List α) :=
  if segment = [] ∨ segment = A.here then names
  else if segment = A.up then
    if names = [] ∨ names.getLast? = some A.up then
      if allowAboveRoot then names ++ [segment] else names
    else names.dropLast
  else names ++ [segment]

def normalizeString (path : List α) (allowAboveRoot : Bool) : List α :=
  [A.separator].intercalate ((A.segments path).foldl (A.simplify allowAboveRoot) [])

def normalize (path : List α) : List α :=
  let trailing := if path.getLast? = some A.separator then [A.separator] else []
  let text := A.normalizeString path (!A.isAbsolute path)
  if path = [] then A.here
  else if A.isAbsolute path then
    A.separator :: (if text = [] then [] else text ++ trailing)
  else (if text = [] then A.here else text) ++ trailing

def join (parts : List (List α)) : List α :=
  match parts.filter (· ≠ []) with
  | [] => A.here
  | part :: rest => A.normalize ([A.separator].intercalate (part :: rest))

def dirname : List α → List α
  | [] => A.here
  | c :: rest =>
    match (rest.reverse.dropWhile (· = A.separator)).dropWhile (· ≠ A.separator) with
    | [] => if c = A.separator then [A.separator] else A.here
    | _ :: front =>
      if c = A.separator ∧ front = [] then [A.separator, A.separator] else c :: front.reverse

def basename (path : List α) : List α :=
  ((path.reverse.dropWhile (· = A.separator)).takeWhile (· ≠ A.separator)).reverse

def Inside (directory path : List α) : Prop :=
  A.isAbsolute path = true ∧ A.resolve directory <+: A.resolve path

/-- How many directories a list of segments climbs out of, and the names it goes down after that. -/
def unwindStep (way : ℕ × List (List α)) (segment : List α) : ℕ × List (List α) :=
  if segment = [] ∨ segment = A.here then way
  else if segment = A.up then
    if way.2 = [] then (way.1 + 1, []) else (way.1, way.2.dropLast)
  else (way.1, way.2 ++ [segment])

def unwind (segments : List (List α)) : ℕ × List (List α) := segments.foldl A.unwindStep (0, [])

/-- The segments go back down, by name, into every directory that they climb out of. -/
def Returns (directory segments : List (List α)) : Prop :=
  directory.drop (directory.length - (A.unwind segments).1) <+: (A.unwind segments).2

variable {A}

structure IsName (A : Alphabet α) (name : List α) : Prop where
  ne_nil : name ≠ []
  ne_here : name ≠ A.here
  ne_up : name ≠ A.up
  noSeparator : A.separator ∉ name

theorem climb_name {names : List (List α)} {name : List α} (h : A.IsName name) :
    A.climb names name = names ++ [name] := by
  unfold climb
  rw [if_neg (by simp [h.ne_nil, h.ne_here]), if_neg h.ne_up]

theorem follow_append (names left right : List (List α)) :
    A.follow names (left ++ right) = A.follow (A.follow names left) right := List.foldl_append

theorem follow_names {start names : List (List α)} (h : ∀ name ∈ names, A.IsName name) :
    A.follow start names = start ++ names := by
  induction names generalizing start with
  | nil => exact (List.append_nil start).symm
  | cons name rest ih =>
    rw [List.forall_mem_cons] at h
    have hstep : A.follow start (name :: rest) = A.follow (A.climb start name) rest := rfl
    rw [hstep, climb_name h.1, ih h.2, List.append_assoc, List.singleton_append]

theorem segments_noSeparator (path : List α) : ∀ s ∈ A.segments path, A.separator ∉ s := by
  unfold segments
  induction path with
  | nil => simp
  | cons c path ih =>
    rw [List.splitOn_cons_eq_if_modifyHead]
    split
    case isTrue => simpa using ih
    case isFalse hc =>
      cases hsplit : path.splitOn A.separator with
      | nil => simp
      | cons first rest =>
        rw [hsplit, List.forall_mem_cons] at ih
        rw [List.modifyHead_cons, List.forall_mem_cons]
        refine ⟨fun hmem => ?_, ih.2⟩
        obtain heq | hmem := List.mem_cons.mp hmem
        · exact hc (by simp [heq])
        · exact ih.1 hmem

theorem climb_isName {names : List (List α)} {segment : List α}
    (hnames : ∀ name ∈ names, A.IsName name) (hsegment : A.separator ∉ segment) :
    ∀ name ∈ A.climb names segment, A.IsName name := by
  unfold climb
  split
  case isTrue => exact hnames
  case isFalse hplain =>
    split
    case isTrue => exact fun name hname => hnames name (List.mem_of_mem_dropLast hname)
    case isFalse hup =>
      rw [List.forall_mem_append, List.forall_mem_singleton]
      exact ⟨hnames, ⟨(not_or.mp hplain).1, (not_or.mp hplain).2, hup, hsegment⟩⟩

theorem follow_isName {start segments : List (List α)} (hstart : ∀ name ∈ start, A.IsName name)
    (hsegments : ∀ s ∈ segments, A.separator ∉ s) :
    ∀ name ∈ A.follow start segments, A.IsName name := by
  induction segments generalizing start with
  | nil => exact hstart
  | cons s rest ih =>
    rw [List.forall_mem_cons] at hsegments
    exact ih (climb_isName hstart hsegments.1) hsegments.2

theorem resolve_isName (path : List α) : ∀ name ∈ A.resolve path, A.IsName name :=
  follow_isName (by simp) (segments_noSeparator path)

def render (A : Alphabet α) (names : List (List α)) (trailing : Bool) : List α :=
  A.separator :: (if names = [] then [] else
    [A.separator].intercalate names ++ if trailing then [A.separator] else [])

theorem segments_separator (front rest : List α) :
    A.segments (front ++ A.separator :: rest) = A.segments front ++ A.segments rest :=
  List.splitOn_append_cons_self front rest

theorem segments_nil : A.segments [] = [[]] := List.splitOn_nil _

theorem segments_intercalate {names : List (List α)} (h : ∀ name ∈ names, A.IsName name)
    (hsome : names ≠ []) : A.segments ([A.separator].intercalate names) = names :=
  List.splitOn_intercalate A.separator (fun name hname => (h name hname).noSeparator) hsome

theorem follow_nil_segment (names : List (List α)) : A.follow names [[]] = names := by
  simp [follow, climb]

theorem resolve_render {names : List (List α)} (h : ∀ name ∈ names, A.IsName name)
    (trailing : Bool) : A.resolve (A.render names trailing) = names := by
  have hfront (rest : List α) : A.resolve (A.separator :: rest) = A.follow [] (A.segments rest) := by
    unfold resolve
    rw [← List.nil_append (A.separator :: rest), segments_separator, segments_nil, follow_append,
      follow_nil_segment]
  unfold render
  rw [hfront]
  by_cases hsome : names = []
  · rw [if_pos hsome, segments_nil, follow_nil_segment, hsome]
  · rw [if_neg hsome]
    have hnames : A.follow [] names = [] ++ names := follow_names h
    cases trailing with
    | false => simpa [segments_intercalate h hsome] using hnames
    | true =>
      rw [if_pos rfl, segments_separator, segments_nil, segments_intercalate h hsome,
        follow_append, hnames, follow_nil_segment, List.nil_append]

theorem isAbsolute_render (names : List (List α)) (trailing : Bool) :
    A.isAbsolute (A.render names trailing) = true := by
  simp [isAbsolute, render]

/-- Where no name is `..`, a step of an absolute path climbs. -/
theorem simplify_eq_climb {names : List (List α)} (hnames : ∀ name ∈ names, A.IsName name)
    (segment : List α) : A.simplify false names segment = A.climb names segment := by
  unfold simplify climb
  split
  · rfl
  split
  · split
    case isTrue hbottom =>
      obtain rfl | hlast := hbottom
      · rfl
      · exact absurd rfl (hnames A.up (List.mem_of_getLast? hlast)).ne_up
    case isFalse => rfl
  · rfl

theorem foldl_simplify {start segments : List (List α)} (hstart : ∀ name ∈ start, A.IsName name)
    (hsegments : ∀ s ∈ segments, A.separator ∉ s) :
    segments.foldl (A.simplify false) start = A.follow start segments := by
  induction segments generalizing start with
  | nil => rfl
  | cons s rest ih =>
    rw [List.forall_mem_cons] at hsegments
    rw [List.foldl_cons, simplify_eq_climb hstart,
      ih (climb_isName hstart hsegments.1) hsegments.2]
    rfl

theorem intercalate_eq_nil {names : List (List α)} (h : ∀ name ∈ names, A.IsName name) :
    [A.separator].intercalate names = [] ↔ names = [] := by
  constructor
  · intro hnil
    by_contra hsome
    have hsplit := segments_intercalate h hsome
    rw [hnil, segments_nil] at hsplit
    exact (h [] (hsplit ▸ List.mem_singleton_self _)).ne_nil rfl
  · rintro rfl
    rfl

theorem normalize_eq_render {path : List α} (h : A.isAbsolute path = true) :
    ∃ trailing, A.normalize path = A.render (A.resolve path) trailing := by
  have hsome : path ≠ [] := by
    rintro rfl
    cases h
  have htext : A.normalizeString path false = [A.separator].intercalate (A.resolve path) := by
    unfold normalizeString
    rw [foldl_simplify (by simp) (segments_noSeparator path)]
    rfl
  refine ⟨decide (path.getLast? = some A.separator), ?_⟩
  unfold normalize render
  rw [if_neg hsome, if_pos h, h, Bool.not_true, htext]
  simp only [intercalate_eq_nil (resolve_isName path), decide_eq_true_eq]

theorem join_eq_render {path rest : List α} (h : A.isAbsolute path = true) : ∃ trailing,
    A.join [path, rest] = A.render (A.follow (A.resolve path) (A.segments rest)) trailing := by
  have hsome : path ≠ [] := by
    rintro rfl
    cases h
  unfold join
  by_cases hrest : rest = []
  · have hfilter : [path, rest].filter (· ≠ []) = [path] := by simp [hsome, hrest]
    rw [hfilter, hrest, segments_nil, follow_nil_segment]
    dsimp only
    rw [List.intercalate_singleton]
    exact normalize_eq_render h
  · have hfilter : [path, rest].filter (· ≠ []) = [path, rest] := by simp [hsome, hrest]
    rw [hfilter]
    dsimp only
    have htext : [A.separator].intercalate [path, rest] = path ++ A.separator :: rest := by simp
    have habsolute : A.isAbsolute (path ++ A.separator :: rest) = true := by
      cases path with
      | nil => exact absurd rfl hsome
      | cons c path => exact h
    have hresolve : A.resolve (path ++ A.separator :: rest) =
        A.follow (A.resolve path) (A.segments rest) := by
      unfold resolve
      rw [segments_separator, follow_append]
    rw [htext, ← hresolve]
    exact normalize_eq_render habsolute

omit [DecidableEq α] in
theorem intercalate_concat {names : List (List α)} (hsome : names ≠ []) (name : List α) :
    [A.separator].intercalate (names ++ [name]) =
      [A.separator].intercalate names ++ A.separator :: name := by
  induction names with
  | nil => exact absurd rfl hsome
  | cons first rest ih =>
    cases rest with
    | nil => simp
    | cons second rest =>
      rw [List.cons_append, List.cons_append, List.intercalate_cons_cons, ← List.cons_append,
        ih (by simp), List.intercalate_cons_cons]
      simp only [List.append_assoc]

theorem dropWhile_trailing {name front : List α} (h : A.IsName name) (trailing : Bool) :
    (front ++ name ++ if trailing then [A.separator] else []).reverse.dropWhile
      (· = A.separator) = name.reverse ++ front.reverse := by
  have hreverse : (front ++ name).reverse = name.reverse ++ front.reverse := List.reverse_append
  have hstop : (name.reverse ++ front.reverse).dropWhile (fun c => decide (c = A.separator)) =
      name.reverse ++ front.reverse := by
    cases hlast : name.reverse with
    | nil => exact absurd (List.reverse_eq_nil_iff.mp hlast) h.ne_nil
    | cons c rest =>
      have hc : c ∈ name := List.mem_reverse.mp (hlast ▸ List.mem_cons_self)
      have hne : c ≠ A.separator := fun heq => h.noSeparator (heq ▸ hc)
      rw [List.cons_append, List.dropWhile_cons_of_neg (by simp [hne])]
  cases trailing with
  | false => simpa [hreverse] using hstop
  | true => simpa [hreverse] using hstop

theorem takeWhile_name {name rest : List α} (h : A.IsName name) :
    (name.reverse ++ rest).takeWhile (· ≠ A.separator) =
      name.reverse ++ rest.takeWhile (· ≠ A.separator) ∧
    (name.reverse ++ rest).dropWhile (· ≠ A.separator) = rest.dropWhile (· ≠ A.separator) := by
  have hall : ∀ c ∈ name.reverse, decide (c ≠ A.separator) = true := by
    intro c hc
    exact decide_eq_true fun heq => h.noSeparator (heq ▸ List.mem_reverse.mp hc)
  exact ⟨List.takeWhile_append_of_pos hall, List.dropWhile_append_of_pos hall⟩

theorem dirname_render {names : List (List α)} (h : ∀ name ∈ names, A.IsName name)
    (trailing : Bool) : A.dirname (A.render names trailing) = A.render names.dropLast false := by
  obtain rfl | ⟨front, name, rfl⟩ := List.eq_nil_or_concat' names
  · simp [render, dirname]
  · have hname : A.IsName name := h name (by simp)
    have hfront : ∀ n ∈ front, A.IsName n := fun n hn => h n (by simp [hn])
    rw [List.dropLast_concat]
    unfold render dirname
    rw [if_neg (by simp)]
    by_cases hsome : front = []
    · subst hsome
      have hdrop : (([] ++ name ++ if trailing then [A.separator] else []).reverse).dropWhile
          (· = A.separator) = name.reverse ++ [] := dropWhile_trailing hname trailing
      simp only [List.nil_append, List.intercalate_singleton] at hdrop ⊢
      rw [hdrop, (takeWhile_name hname).2]
      simp
    · rw [intercalate_concat hsome, List.append_cons _ A.separator]
      dsimp only
      rw [dropWhile_trailing hname, (takeWhile_name hname).2]
      have htext : [A.separator].intercalate front ≠ [] := (intercalate_eq_nil hfront).not.mpr hsome
      simp [hsome, htext]

theorem basename_render {names : List (List α)} (h : ∀ name ∈ names, A.IsName name)
    (trailing : Bool) : A.basename (A.render names trailing) = names.getLast?.getD [] := by
  obtain rfl | ⟨front, name, rfl⟩ := List.eq_nil_or_concat' names
  · simp [render, basename]
  · have hname : A.IsName name := h name (by simp)
    have htext : ∃ before, A.render (front ++ [name]) trailing =
        (before ++ [A.separator]) ++ name ++ if trailing then [A.separator] else [] := by
      unfold render
      rw [if_neg (by simp)]
      by_cases hsome : front = []
      · exact ⟨[], by simp [hsome]⟩
      · refine ⟨A.separator :: [A.separator].intercalate front, ?_⟩
        rw [intercalate_concat hsome]
        simp
    obtain ⟨before, htext⟩ := htext
    unfold basename
    rw [htext, dropWhile_trailing hname, (takeWhile_name hname).1]
    simp

theorem resolve_join_basename {path : List α} {names : List (List α)} {trailing : Bool}
    (h : ∀ name ∈ names, A.IsName name) (hpath : path = A.render names trailing) :
    ∃ trailing', A.join [A.dirname path, A.basename path] = A.render names trailing' := by
  have hfront : ∀ name ∈ names.dropLast, A.IsName name := fun name hname =>
    h name (List.mem_of_mem_dropLast hname)
  have hdirectory : A.isAbsolute (A.render names.dropLast false) = true := isAbsolute_render _ _
  rw [hpath, dirname_render h, basename_render h]
  obtain ⟨trailing', hjoin⟩ := join_eq_render hdirectory
  refine ⟨trailing', hjoin.trans ?_⟩
  rw [resolve_render hfront]
  obtain rfl | ⟨front, name, rfl⟩ := List.eq_nil_or_concat' names
  · simp [segments_nil, follow_nil_segment]
  · have hname : A.IsName name := h name (by simp)
    have hsegments : A.segments name = [name] := List.splitOn_eq_singleton hname.noSeparator
    simp [hsegments, follow_names, hname]

theorem unwind_concat (segments : List (List α)) (segment : List α) :
    A.unwind (segments ++ [segment]) = A.unwindStep (A.unwind segments) segment := by
  simp [unwind]

theorem follow_eq_unwind (start segments : List (List α)) : A.follow start segments =
    start.take (start.length - (A.unwind segments).1) ++ (A.unwind segments).2 := by
  induction segments using List.reverseRecOn with
  | nil => simp [follow, unwind]
  | append_singleton segments segment ih =>
    rw [follow_append, ih, unwind_concat]
    generalize A.unwind segments = way
    obtain ⟨ups, names⟩ := way
    show A.climb _ segment = _
    unfold climb unwindStep
    dsimp only
    split
    · rfl
    split
    · split
      case isTrue hnil =>
        simp only [hnil, List.append_nil]
        rw [List.dropLast_eq_take, List.take_take, List.length_take]
        congr 1
        omega
      case isFalse hsome => rw [List.dropLast_append_of_ne_nil hsome]
    · exact List.append_assoc _ _ _

theorem prefix_follow_iff (start segments : List (List α)) :
    start <+: A.follow start segments ↔ A.Returns start segments := by
  have hsplit := List.take_append_drop (start.length - (A.unwind segments).1) start
  have hcancel : start.take (start.length - (A.unwind segments).1) ++
      start.drop (start.length - (A.unwind segments).1) <+:
        start.take (start.length - (A.unwind segments).1) ++ (A.unwind segments).2 ↔
      A.Returns start segments := List.prefix_append_right_inj _
  rwa [hsplit, ← follow_eq_unwind] at hcancel

end Alphabet

end NouvaAgent.Paths
