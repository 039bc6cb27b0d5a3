import NouvaAgent.ManagedRuntime

namespace NouvaAgent

open Interaction Method ManagedRuntime

abbrev RuntimeFiles := String → Option String

namespace FileChange

def Under (path : String) (recursive : Bool) (p : String) : Prop :=
  p = path ∨ recursive = true ∧ (path.toList ++ ['/']) <+: p.toList

instance (path : String) (recursive : Bool) : DecidablePred (Under path recursive) :=
  fun _ => inferInstanceAs (Decidable (_ ∨ _))

theorem under_append (base path p : String) (recursive : Bool) :
    Under (base ++ path) recursive (base ++ p) ↔ Under path recursive p := by
  simp only [Under, String.append_right_inj, String.toList_append, List.append_assoc,
    List.prefix_append_right_inj]

def apply (files : RuntimeFiles) : FileChange → RuntimeFiles
  | mkdir _ | chmod _ _ => files
  | writeFile path contents => Function.update files path (some contents)
  | rename source target =>
    Function.update (Function.update files target (files source)) source none
  | rm path recursive => fun p => if Under path recursive p then none else files p

/-- What a rejected change may leave: a write may leave anything in its own file, a removal may have
got part of the way, and the others are made whole or not at all. -/
def Rejected (files : RuntimeFiles) : FileChange → RuntimeFiles → Prop
  | writeFile path _, files' => ∃ contents, files' = Function.update files path contents
  | rm path recursive, files' =>
    ∀ p, files' p = files p ∨ Under path recursive p ∧ files' p = none
  | _, files' => files' = files

def Effect (change : FileChange) : Option (Except CallError Unit) → RuntimeFiles → RuntimeFiles → Prop
  | some (.ok _), files, files' => files' = change.apply files
  | some (.error _), files, files' => change.Rejected files files'
  | none, files, files' => files' = change.apply files ∨ change.Rejected files files'

def Touches : FileChange → String → Prop
  | mkdir _, _ | chmod _ _, _ => False
  | writeFile path _, p => p = path
  | rename source target, p => p = source ∨ p = target
  | rm path recursive, p => Under path recursive p

theorem apply_untouched {change : FileChange} {files : RuntimeFiles} {p : String}
    (h : ¬ change.Touches p) : change.apply files p = files p := by
  cases change with
  | mkdir path => rfl
  | writeFile path contents => exact Function.update_of_ne h _ _
  | rename source target =>
    have hne : p ≠ source ∧ p ≠ target := not_or.mp h
    rw [apply, Function.update_of_ne hne.1, Function.update_of_ne hne.2]
  | chmod path mode => rfl
  | rm path recursive => exact if_neg h

theorem Rejected.untouched {change : FileChange} {files files' : RuntimeFiles} {p : String}
    (hr : change.Rejected files files') (h : ¬ change.Touches p) : files' p = files p := by
  cases change with
  | mkdir path => exact congrFun hr p
  | writeFile path contents =>
    obtain ⟨contents, rfl⟩ := hr
    exact Function.update_of_ne h _ _
  | rename source target => exact congrFun hr p
  | chmod path mode => exact congrFun hr p
  | rm path recursive =>
    obtain hp | ⟨hu, _⟩ := hr p
    · exact hp
    · exact absurd hu h

theorem Effect.untouched {change : FileChange} {r : Option (Except CallError Unit)}
    {files files' : RuntimeFiles} {p : String} (he : change.Effect r files files')
    (h : ¬ change.Touches p) : files' p = files p := by
  have happly (hf : files' = change.apply files) : files' p = files p := by
    rw [hf]
    exact apply_untouched h
  rcases r with _ | _ | _
  · obtain hf | hr := he
    · exact happly hf
    · exact Rejected.untouched hr h
  · exact Rejected.untouched he h
  · exact happly he

theorem rejected_self (change : FileChange) (files : RuntimeFiles) : change.Rejected files files := by
  cases change with
  | writeFile path contents => exact ⟨files path, (Function.update_eq_self path files).symm⟩
  | rm path recursive => exact fun p => .inl rfl
  | mkdir path => rfl
  | rename source target => rfl
  | chmod path mode => rfl

end FileChange

namespace RuntimeCall

def FileEffect : (c : RuntimeCall) → Option c.Answer → RuntimeFiles → RuntimeFiles → Prop
  | .request (.change change), r, files, files' => change.Effect r files files'
  | _, _, files, files' => files' = files

def Spares (p : String) : RuntimeCall → Prop
  | .request (.change change) => ¬ change.Touches p
  | _ => True

theorem FileEffect.spares {c : RuntimeCall} {r : Option c.Answer} {files files' : RuntimeFiles} {p : String}
    (he : c.FileEffect r files files') (h : c.Spares p) : files' p = files p := by
  cases c with
  | request q =>
    cases q with
    | change change => exact FileChange.Effect.untouched he h
    | _ => exact congrFun he p
  | now => exact congrFun he p
  | sleep ms => exact congrFun he p

end RuntimeCall

namespace ManagedRuntime

variable {W σ : Type} {M : Model RuntimeCall.Answer W} {files : W → RuntimeFiles}

theorem temporary_ne (path : String) : path ≠ temporary path := by
  intro h
  have hlength := congrArg String.length h
  simp [temporary] at hlength

theorem writeManagedFile_writes
    (hM : ∀ w c r w', M w c r w' → c.FileEffect r (files w) (files w')) (path contents : String)
    (s : σ) (w : W) : (writeManagedFile path contents).wp M
      ⟨fun _ _ w => files w path = some contents, fun _ _ _ => True, fun _ => True⟩ s w := by
  refine wp_bind_any (fun _ _ _ => trivial) (fun _ => trivial) fun _ s w => ?_
  refine (wp_bind _ _).mpr ((wp_request _).mpr ⟨fun _ _ => trivial, fun _ _ _ => trivial,
    fun _ w' hm => ?_⟩)
  have hwritten : files w' (temporary path) = some contents := by
    rw [show files w' = _ from hM _ _ _ _ hm]
    exact Function.update_self _ _ _
  refine (wp_request _).mpr ⟨fun _ _ => trivial, fun _ _ _ => trivial, fun _ w'' hm => ?_⟩
  have hrenamed : files w'' = (FileChange.rename (temporary path) path).apply (files w') :=
    hM _ _ _ _ hm
  show files w'' path = some contents
  rw [hrenamed, FileChange.apply, Function.update_of_ne (temporary_ne path), Function.update_self,
    hwritten]

def written (path contents : String) (files : RuntimeFiles) : RuntimeFiles :=
  (FileChange.rename (temporary path) path).apply
    ((FileChange.writeFile (temporary path) contents).apply files)

theorem written_self (path contents : String) (files : RuntimeFiles) :
    written path contents files path = some contents := by
  rw [written, FileChange.apply, FileChange.apply, Function.update_of_ne (temporary_ne path),
    Function.update_self, Function.update_self]

theorem written_of_ne {path contents p : String} {files : RuntimeFiles} (h : p ≠ path)
    (ht : p ≠ temporary path) : written path contents files p = files p := by
  have hwrite : ¬ (FileChange.writeFile (temporary path) contents).Touches p := ht
  have hrename : ¬ (FileChange.rename (temporary path) path).Touches p := not_or.mpr ⟨ht, h⟩
  exact (FileChange.apply_untouched hrename).trans (FileChange.apply_untouched hwrite)

theorem writeManagedFile_uses {S : RuntimeCall → Prop} {path contents : String}
    (hmkdir : S (.request (.change (.mkdir (dirname path)))))
    (hwrite : S (.request (.change (.writeFile (temporary path) contents))))
    (hrename : S (.request (.change (.rename (temporary path) path)))) :
    (writeManagedFile path contents : RuntimeMethod σ Unit).Uses S := by
  refine uses_bind (uses_request hmkdir) fun _ => ?_
  exact uses_bind (uses_request hwrite) fun _ => uses_request hrename

theorem readManagedFile_uses {S : RuntimeCall → Prop} {path : String}
    (hread : S (.request (.readFile path))) :
    (readManagedFile path : RuntimeMethod σ _).Uses S := by
  refine uses_bind (uses_settle (uses_request hread)) fun found => ?_
  cases found <;> exact uses_pure _

end ManagedRuntime

end NouvaAgent
