import Mathlib.Data.List.Sort
import NouvaAgent.JsonText

namespace NouvaAgent

open Json

inductive PgBackrestType
  | full
  | diff
  | incr
  deriving DecidableEq, Repr

/-- A backup of a stanza. `stopAt` is in milliseconds. -/
structure PgBackrestInfoBackup where
  label : Units
  type : PgBackrestType
  stopAt : Option ℤ
  annotationBackupId : Option Units
  deriving DecidableEq, Repr

/-- What the engine writes in the errors of `JSON.parse` and of `Date.prototype.toISOString`. -/
structure EngineErrors where
  syntaxError : String → String
  invalidTime : String

def PgBackrestType.ofUnits (type : Units) : Option PgBackrestType :=
  if type = units "full" then some .full
  else if type = units "diff" then some .diff
  else if type = units "incr" then some .incr
  else none

namespace PgBackrestInfo

def property (value : Json) (name : String) : Option Json :=
  match value with
  | .obj entries => get? entries (units name)
  | _ => none

def textProperty (value : Json) (name : String) : Option Units :=
  match property value name with
  | some (.str text) => some text
  | _ => none

/-- `new Date(ms).toISOString()` knows no time further from 1970 than this. -/
def maxTime : ℚ := 8640000000000000

def truncate (q : ℚ) : ℤ := if 0 ≤ q then q.floor else -(-q).floor

variable (engine : EngineErrors)

def readTime (seconds : ℚ) : Except String ℤ :=
  let ms := JsonText.nearestDouble (seconds * 1000)
  if -maxTime ≤ ms ∧ ms ≤ maxTime then .ok (truncate ms) else .error engine.invalidTime

/-- A stop time of zero counts as none. -/
def readStopAt (entry : Json) : Except String (Option ℤ) :=
  match (property entry "timestamp").bind (property · "stop") with
  | some (.num seconds) =>
    if seconds = 0 then .ok none else (readTime engine seconds).map some
  | _ => .ok none

/-- The backup that an entry of the list describes. An entry without a label or a known type is
none. -/
def readBackup (entry : Json) : Except String (Option PgBackrestInfoBackup) :=
  match textProperty entry "label", (textProperty entry "type").bind PgBackrestType.ofUnits with
  | some label, some type =>
    if label = [] then .ok none
    else (readStopAt engine entry).map fun stopAt => some
      { label, type, stopAt
        annotationBackupId :=
          (property entry "annotation").bind (textProperty · "nouva-backup-id") }
  | _, _ => .ok none

def stanzaBackups (decoded : Json) : List Json :=
  match decoded with
  | .arr (stanza :: _) =>
    match property stanza "backup" with
    | some (.arr backups) => backups
    | _ => []
  | _ => []

def listedBackups (raw : String) : Except String (List PgBackrestInfoBackup) :=
  match JsonText.parse raw with
  | none => .error (engine.syntaxError raw)
  | some decoded =>
    ((stanzaBackups decoded).mapM (readBackup engine)).map fun backups => backups.filterMap id

def stoppedNoEarlier (left right : PgBackrestInfoBackup) : Prop :=
  match right.stopAt, left.stopAt with
  | none, _ => True
  | some _, none => False
  | some rightStopAt, some leftStopAt => rightStopAt ≤ leftStopAt

instance : DecidableRel stoppedNoEarlier := fun left right => by
  unfold stoppedNoEarlier
  split <;> infer_instance

def newestFirst (backups : List PgBackrestInfoBackup) : List PgBackrestInfoBackup :=
  backups.insertionSort stoppedNoEarlier

def parsePgBackrestInfo (raw : String) : Except String (List PgBackrestInfoBackup) :=
  (listedBackups engine raw).map newestFirst

def selectCurrentPgBackrestEntry (entries : List PgBackrestInfoBackup) (backupId : Units)
    (backupType : PgBackrestType) : Option PgBackrestInfoBackup :=
  ((entries.find? fun entry => entry.annotationBackupId = some backupId).or
    (entries.find? fun entry => entry.type = backupType)).or entries.head?

structure Newest (p : PgBackrestInfoBackup → Prop) (backups : List PgBackrestInfoBackup)
    (entry : PgBackrestInfoBackup) : Prop where
  mem : entry ∈ backups
  holds : p entry
  latest : ∀ other ∈ backups, p other → stoppedNoEarlier entry other

def Annotated (backupId : Units) (entry : PgBackrestInfoBackup) : Prop :=
  entry.annotationBackupId = some backupId

/-- The newest of the backups that carry the annotation; where none does, the newest of the type
that was asked for; where none is of that type, the newest of all. -/
structure Chosen (backups : List PgBackrestInfoBackup) (backupId : Units)
    (backupType : PgBackrestType) (entry : PgBackrestInfoBackup) : Prop where
  annotated : (∃ other ∈ backups, Annotated backupId other) →
    Newest (Annotated backupId) backups entry
  typed : (∀ other ∈ backups, ¬ Annotated backupId other) →
    (∃ other ∈ backups, other.type = backupType) → Newest (·.type = backupType) backups entry
  any : (∀ other ∈ backups, ¬ Annotated backupId other) →
    (∀ other ∈ backups, other.type ≠ backupType) → Newest (fun _ => True) backups entry

section

variable {backups : List PgBackrestInfoBackup} {a b c entry : PgBackrestInfoBackup}
  {backupId : Units} {backupType : PgBackrestType}

theorem stoppedNoEarlier_refl (a : PgBackrestInfoBackup) : stoppedNoEarlier a a := by
  unfold stoppedNoEarlier
  split
  · trivial
  · simp_all
  · simp_all

theorem stoppedNoEarlier_total (a b : PgBackrestInfoBackup) :
    stoppedNoEarlier a b ∨ stoppedNoEarlier b a := by
  unfold stoppedNoEarlier
  cases a.stopAt with
  | none => exact .inr trivial
  | some stopAt =>
    cases b.stopAt with
    | none => exact .inl trivial
    | some otherStopAt => exact Int.le_total otherStopAt stopAt

theorem stoppedNoEarlier_trans (hab : stoppedNoEarlier a b) (hbc : stoppedNoEarlier b c) :
    stoppedNoEarlier a c := by
  unfold stoppedNoEarlier at *
  cases hc : c.stopAt with
  | none => trivial
  | some cStopAt =>
    cases hb : b.stopAt with
    | none => simp [hb, hc] at hbc
    | some bStopAt =>
      cases ha : a.stopAt with
      | none => simp [ha, hb] at hab
      | some aStopAt =>
        simp only [ha, hb, hc] at hab hbc ⊢
        exact hbc.trans hab

instance : Std.Total stoppedNoEarlier := ⟨stoppedNoEarlier_total⟩

instance : IsTrans PgBackrestInfoBackup stoppedNoEarlier := ⟨fun _ _ _ => stoppedNoEarlier_trans⟩

theorem mem_newestFirst : entry ∈ newestFirst backups ↔ entry ∈ backups :=
  List.mem_insertionSort stoppedNoEarlier

theorem newestFirst_sorted (backups : List PgBackrestInfoBackup) :
    (newestFirst backups).Pairwise stoppedNoEarlier :=
  List.pairwise_insertionSort stoppedNoEarlier backups

theorem newest_of_find {p : PgBackrestInfoBackup → Bool}
    (h : (newestFirst backups).find? p = some entry) :
    Newest (fun entry => p entry = true) backups entry := by
  obtain ⟨hp, before, after, hsplit, hbefore⟩ := List.find?_eq_some_iff_append.mp h
  have hsorted := newestFirst_sorted backups
  rw [hsplit] at hsorted
  refine ⟨mem_newestFirst.mp (hsplit ▸ List.mem_append_cons_self), hp, fun other hother hpo => ?_⟩
  have hmem := mem_newestFirst.mpr hother
  rw [hsplit] at hmem
  rcases List.mem_append.mp hmem with hmem | hmem
  · exact absurd hpo (by simpa using hbefore other hmem)
  · rcases List.mem_cons.mp hmem with rfl | hmem
    · exact stoppedNoEarlier_refl other
    · exact List.rel_of_pairwise_cons (List.pairwise_append.mp hsorted).2.1 hmem

theorem Newest.congr {p q : PgBackrestInfoBackup → Prop} (h : Newest p backups entry)
    (hpq : ∀ other, p other ↔ q other) : Newest q backups entry :=
  ⟨h.mem, (hpq entry).mp h.holds, fun other hother ho => h.latest other hother ((hpq other).mpr ho)⟩

theorem find_newestFirst_none {p : PgBackrestInfoBackup → Bool}
    (h : (newestFirst backups).find? p = none) : ∀ other ∈ backups, ¬ p other = true :=
  fun other hother => List.find?_eq_none.mp h other (mem_newestFirst.mpr hother)

theorem newest_of_head (h : (newestFirst backups).head? = some entry) :
    Newest (fun _ => True) backups entry := by
  obtain ⟨rest, hsplit⟩ := List.head?_eq_some_iff.mp h
  have hfind : (newestFirst backups).find? (fun _ => true) = some entry := by
    rw [hsplit]
    rfl
  exact (newest_of_find hfind).congr fun _ => by simp

theorem selectCurrentPgBackrestEntry_chosen
    (h : selectCurrentPgBackrestEntry (newestFirst backups) backupId backupType = some entry) :
    Chosen backups backupId backupType entry := by
  have hannotated (other : PgBackrestInfoBackup) :
      decide (other.annotationBackupId = some backupId) = true ↔ Annotated backupId other :=
    decide_eq_true_iff
  have htype (other : PgBackrestInfoBackup) :
      decide (other.type = backupType) = true ↔ other.type = backupType := decide_eq_true_iff
  unfold selectCurrentPgBackrestEntry at h
  cases hfound : (newestFirst backups).find? fun other =>
      decide (other.annotationBackupId = some backupId) with
  | some found =>
    rw [hfound, Option.some_or, Option.some_or] at h
    cases h
    have hnewest := (newest_of_find hfound).congr hannotated
    exact ⟨fun _ => hnewest, fun hno _ => absurd hnewest.holds (hno _ hnewest.mem),
      fun hno _ => absurd hnewest.holds (hno _ hnewest.mem)⟩
  | none =>
    have hno := find_newestFirst_none hfound
    simp only [hannotated] at hno
    rw [hfound, Option.none_or] at h
    cases hfoundType : (newestFirst backups).find? fun other =>
        decide (other.type = backupType) with
    | some found =>
      rw [hfoundType, Option.some_or] at h
      cases h
      have hnewest := (newest_of_find hfoundType).congr htype
      exact ⟨fun ⟨other, hother, ho⟩ => absurd ho (hno other hother), fun _ _ => hnewest,
        fun _ hnoType => absurd hnewest.holds (hnoType _ hnewest.mem)⟩
    | none =>
      have hnoType := find_newestFirst_none hfoundType
      simp only [htype] at hnoType
      rw [hfoundType, Option.none_or] at h
      exact ⟨fun ⟨other, hother, ho⟩ => absurd ho (hno other hother),
        fun _ ⟨other, hother, ho⟩ => absurd ho (hnoType other hother), fun _ _ => newest_of_head h⟩

end

end PgBackrestInfo

end NouvaAgent
