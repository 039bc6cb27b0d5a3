import Mathlib.Data.List.Forall2
import NouvaAgent.DatabaseProvision

namespace NouvaAgent.PgBackrestCredentials

open Text DatabaseProvision

def assigns (name value : String) : String := name ++ "=" ++ value

def HasLineBreak (value : String) : Prop := '\r' ∈ value.toList ∨ '\n' ∈ value.toList

def secrets (env : List String) : List (String × String × String) := env.filterMap secretOption

def optionLine (secret : String × String × String) : String := secret.2.1 ++ "=" ++ secret.2.2

def others (env : List String) : List String := env.filter fun entry => (secretOption entry).isNone

def setsIncludePath (entry : String) : Bool := startsWith "PGBACKREST_CONFIG_INCLUDE_PATH=" entry

def includePathEntry : String := "PGBACKREST_CONFIG_INCLUDE_PATH=/etc/nouva/pgbackrest"

/-- Two environments that agree but for what they assign to secret variables. -/
def DifferInSecrets (env env' : List String) : Prop :=
  List.Forall₂ (fun entry entry' => entry = entry' ∨
    ∃ name option value value', (name, option) ∈ repositorySecretOptions ∧
      entry = assigns name value ∧ entry' = assigns name value') env env'

structure Holds (file : DatabaseContainerFile) (lines : List String) : Prop where
  included : startsWith "/etc/nouva/pgbackrest/" file.path
  lines : file.content.toList.splitOn '\n' = (["[global]"] ++ lines ++ [""]).map String.toList
  owned : file.mode = 0o600 ∧ file.uid = 999 ∧ file.gid = 999

section

variable {env env' : List String} {entry name option value : String}
  {secret : String × String × String}

theorem secret_name (h : (name, option) ∈ repositorySecretOptions) :
    '=' ∉ name.toList ∧ name.toList ≠ [] ∧ repositorySecretOptions.lookup name = some option := by
  simp only [repositorySecretOptions, List.mem_cons, Prod.mk.injEq, List.not_mem_nil,
    or_false] at h
  rcases h with ⟨rfl, rfl⟩ | ⟨rfl, rfl⟩ | ⟨rfl, rfl⟩ <;> exact ⟨by decide, by decide, by decide⟩

theorem splitEntry_assigns (heq : '=' ∉ name.toList) (hne : name.toList ≠ []) :
    splitEntry (assigns name value) = some (name, value) := by
  have hentry : (assigns name value).toList = name.toList ++ '=' :: value.toList := by
    simp [assigns]
  have hall : ∀ c ∈ name.toList, decide (c ≠ '=') = true := fun c hc =>
    decide_eq_true fun h => heq (h ▸ hc)
  have htake : (assigns name value).toList.takeWhile (· ≠ '=') = name.toList := by
    rw [hentry, List.takeWhile_append_of_pos hall]
    simp
  unfold splitEntry
  dsimp only
  rw [htake, hentry, List.drop_left]
  simp [hne]

theorem eq_assigns (h : splitEntry entry = some (name, value)) : entry = assigns name value := by
  unfold splitEntry at h
  dsimp only at h
  split at h
  · next c rest hdrop =>
    split at h
    · exact nomatch h
    · obtain ⟨rfl, rfl⟩ := Prod.mk.inj (Option.some.inj h)
      have hsplit : entry.toList.takeWhile (· ≠ '=') ++ entry.toList.dropWhile (· ≠ '=') =
        entry.toList := List.takeWhile_append_dropWhile
      have hrest : entry.toList.dropWhile (· ≠ '=') = c :: rest := by
        have hdropped :=
          congrArg (List.drop (entry.toList.takeWhile (· ≠ '=')).length) hsplit
        rwa [List.drop_left, hdrop] at hdropped
      have hc := List.head?_dropWhile_not (· ≠ '=') entry.toList
      rw [hrest] at hc hsplit
      have heq : c = '=' := by simpa using hc
      apply String.toList_inj.mp
      refine hsplit.symm.trans ?_
      simp [assigns, heq]
  · exact nomatch h

theorem secretOption_eq_some : secretOption entry = some (name, option, value) ↔
    (name, option) ∈ repositorySecretOptions ∧ entry = assigns name value := by
  constructor
  · intro h
    obtain ⟨⟨given, rest⟩, hsplit, h⟩ := Option.bind_eq_some_iff.mp h
    obtain ⟨found, hlookup, h⟩ := Option.bind_eq_some_iff.mp h
    obtain ⟨rfl, rfl, rfl⟩ := h
    obtain ⟨before, after, hmem, -⟩ := List.lookup_eq_some_iff.mp hlookup
    exact ⟨hmem ▸ List.mem_append_right _ List.mem_cons_self, eq_assigns hsplit⟩
  · rintro ⟨hmem, rfl⟩
    obtain ⟨heq, hne, hlookup⟩ := secret_name hmem
    unfold secretOption
    rw [splitEntry_assigns heq hne]
    dsimp only [Option.bind_eq_bind, Option.bind_some]
    rw [hlookup]
    rfl

theorem mem_secrets : (name, option, value) ∈ secrets env ↔
    assigns name value ∈ env ∧ (name, option) ∈ repositorySecretOptions := by
  refine List.mem_filterMap.trans ⟨?_, fun ⟨hmem, hname⟩ =>
    ⟨_, hmem, secretOption_eq_some.mpr ⟨hname, rfl⟩⟩⟩
  rintro ⟨entry, hmem, hread⟩
  obtain ⟨hname, rfl⟩ := secretOption_eq_some.mp hread
  exact ⟨hmem, hname⟩

theorem secrets_cons_none (env : List String) (h : secretOption entry = none) :
    secrets (entry :: env) = secrets env ∧ others (entry :: env) = entry :: others env :=
  ⟨List.filterMap_cons_none h, List.filter_cons_of_pos (by simp [h])⟩

theorem secrets_cons_some (env : List String) (h : secretOption entry = some secret) :
    secrets (entry :: env) = secret :: secrets env ∧ others (entry :: env) = others env :=
  ⟨List.filterMap_cons_some h, List.filter_cons_of_neg (by simp [h])⟩

theorem others_of_no_secrets (h : secrets env = []) : others env = env :=
  List.filter_eq_self.mpr fun entry hentry =>
    Option.isNone_iff_eq_none.mpr (List.filterMap_eq_nil_iff.mp h entry hentry)

theorem hasLineBreak_iff :
    (value.toList.any fun c => c = '\r' ∨ c = '\n') = true ↔ HasLineBreak value := by
  simp only [List.any_eq_true, decide_eq_true_eq, HasLineBreak]
  constructor
  · rintro ⟨c, hc, rfl | rfl⟩
    · exact .inl hc
    · exact .inr hc
  · rintro (h | h)
    · exact ⟨_, h, .inl rfl⟩
    · exact ⟨_, h, .inr rfl⟩

theorem readSecretOptions_ok (hclean : ∀ secret ∈ secrets env, ¬ HasLineBreak secret.2.2) :
    readSecretOptions env = .ok (others env, (secrets env).map optionLine) := by
  induction env with
  | nil => rfl
  | cons entry env ih =>
    unfold readSecretOptions
    cases hread : secretOption entry with
    | none =>
      obtain ⟨hsecrets, hothers⟩ := secrets_cons_none env hread
      rw [hsecrets] at hclean ⊢
      dsimp only
      rw [ih hclean, hothers]
      rfl
    | some secret =>
      obtain ⟨name, option, value⟩ := secret
      obtain ⟨hsecrets, hothers⟩ := secrets_cons_some env hread
      rw [hsecrets, List.forall_mem_cons] at hclean
      dsimp only
      rw [if_neg fun h => hclean.1 (hasLineBreak_iff.mp h), ih hclean.2, hsecrets, hothers]
      rfl

theorem readSecretOptions_error (hbreak : ∃ secret ∈ secrets env, HasLineBreak secret.2.2) :
    ∃ error, readSecretOptions env = .error error := by
  induction env with
  | nil => exact absurd hbreak (by simp [secrets])
  | cons entry env ih =>
    unfold readSecretOptions
    cases hread : secretOption entry with
    | none =>
      obtain ⟨error, herror⟩ := ih ((secrets_cons_none env hread).1 ▸ hbreak)
      exact ⟨error, by rw [herror]; rfl⟩
    | some secret =>
      obtain ⟨name, option, value⟩ := secret
      rw [(secrets_cons_some env hread).1] at hbreak
      dsimp only
      split
      · exact ⟨_, rfl⟩
      · next hclean =>
        obtain ⟨found, hmem, hfound⟩ := hbreak
        rcases List.mem_cons.mp hmem with rfl | hmem
        · exact absurd (hasLineBreak_iff.mpr hfound) hclean
        · obtain ⟨error, herror⟩ := ih ⟨found, hmem, hfound⟩
          exact ⟨error, by rw [herror]; rfl⟩

theorem separate_error (hbreak : ∃ secret ∈ secrets env, HasLineBreak secret.2.2) :
    ∃ error, separatePgBackrestCredentials env = .error error := by
  obtain ⟨error, herror⟩ := readSecretOptions_error hbreak
  exact ⟨error, by rw [separatePgBackrestCredentials, herror]; rfl⟩

theorem clean_of_ok {separated : List String × List DatabaseContainerFile}
    (h : separatePgBackrestCredentials env = .ok separated) :
    ∀ secret ∈ secrets env, ¬ HasLineBreak secret.2.2 := by
  intro secret hmem hbreak
  obtain ⟨error, herror⟩ := separate_error ⟨secret, hmem, hbreak⟩
  exact nomatch h.symm.trans herror

theorem optionLine_clean (hname : (name, option) ∈ repositorySecretOptions)
    (hclean : ¬ HasLineBreak value) : '\n' ∉ (optionLine (name, option, value)).toList := by
  have hoption : ∀ known ∈ repositorySecretOptions, '\n' ∉ known.2.toList := by decide
  have hvalue : '\n' ∉ value.toList := fun h => hclean (.inr h)
  simp [optionLine, hoption _ hname, hvalue]

/-- Nothing that an option holds can start another line. -/
theorem splitOn_joined (hclean : ∀ secret ∈ secrets env, ¬ HasLineBreak secret.2.2) :
    (joinLines (["[global]"] ++ (secrets env).map optionLine ++ [""])).toList.splitOn '\n' =
      (["[global]"] ++ (secrets env).map optionLine ++ [""]).map String.toList := by
  have hlines : ∀ line ∈ (["[global]"] ++ (secrets env).map optionLine ++ [""]).map
      String.toList, '\n' ∉ line := by
    simp only [List.map_append, List.mem_append, List.map_cons, List.map_nil, List.map_map,
      List.mem_map, List.mem_singleton]
    rintro _ ((rfl | ⟨⟨name, option, value⟩, hsecret, rfl⟩) | rfl)
    · decide
    · exact optionLine_clean (mem_secrets.mp hsecret).2 (hclean _ hsecret)
    · decide
  unfold joinLines
  rw [String.toList_intercalate]
  exact List.splitOn_intercalate '\n' hlines (by simp)

structure Separates (env : List String)
    (separated : List String × List DatabaseContainerFile) : Prop where
  unchanged : secrets env = [] → separated = (env, [])
  kept : secrets env ≠ [] →
    separated.1 = (others env).filter (!setsIncludePath ·) ++ [includePathEntry]
  files : secrets env ≠ [] →
    ∃ file, separated.2 = [file] ∧ Holds file ((secrets env).map optionLine)

theorem separate_ok (hclean : ∀ secret ∈ secrets env, ¬ HasLineBreak secret.2.2) :
    ∃ separated, separatePgBackrestCredentials env = .ok separated ∧ Separates env separated := by
  unfold separatePgBackrestCredentials
  rw [readSecretOptions_ok hclean]
  by_cases hnone : secrets env = []
  · refine ⟨(env, []), ?_, fun _ => rfl, fun h => absurd hnone h, fun h => absurd hnone h⟩
    rw [hnone, others_of_no_secrets hnone]
    rfl
  · have hoptions : (secrets env).map optionLine ≠ [] := by simpa using hnone
    have hpath : startsWith "/etc/nouva/pgbackrest/"
      "/etc/nouva/pgbackrest/repository-credentials.conf" := by decide +kernel
    refine ⟨_, congrArg Except.ok (if_neg hoptions), fun h => absurd h hnone, fun _ => rfl,
      fun _ => ⟨_, rfl, hpath, splitOn_joined hclean, rfl, rfl, rfl⟩⟩

theorem Separates.no_secret {separated : List String × List DatabaseContainerFile}
    (h : Separates env separated) (hname : (name, option) ∈ repositorySecretOptions) :
    assigns name value ∉ separated.1 := by
  intro hmem
  by_cases hnone : secrets env = []
  · rw [h.unchanged hnone] at hmem
    have hsecret := mem_secrets.mpr ⟨hmem, hname⟩
    rw [hnone] at hsecret
    exact nomatch hsecret
  · have hread : secretOption (assigns name value) = some (name, option, value) :=
      secretOption_eq_some.mpr ⟨hname, rfl⟩
    rw [h.kept hnone] at hmem
    rcases List.mem_append.mp hmem with hmem | hmem
    · have hother := (List.mem_filter.mp (List.mem_filter.mp hmem).1).2
      rw [hread] at hother
      exact nomatch hother
    · have hinclude : secretOption includePathEntry = none := by decide +kernel
      rw [← List.mem_singleton.mp hmem, hread] at hinclude
      exact nomatch hinclude

theorem DifferInSecrets.others_eq (h : DifferInSecrets env env') :
    others env = others env' ∧ (secrets env = [] ↔ secrets env' = []) := by
  induction h with
  | nil => exact ⟨rfl, Iff.rfl⟩
  | @cons entry entry' env env' hentry _ ih =>
    have hcons {secret secret' : String × String × String}
        (hread : secretOption entry = some secret) (hread' : secretOption entry' = some secret') :
        others (entry :: env) = others (entry' :: env') ∧
          (secrets (entry :: env) = [] ↔ secrets (entry' :: env') = []) := by
      obtain ⟨hsecrets, hothers⟩ := secrets_cons_some env hread
      obtain ⟨hsecrets', hothers'⟩ := secrets_cons_some env' hread'
      rw [hsecrets, hothers, hsecrets', hothers']
      exact ⟨ih.1, by simp⟩
    rcases hentry with rfl | ⟨name, option, value, value', hname, rfl, rfl⟩
    · cases hread : secretOption entry with
      | none =>
        obtain ⟨hsecrets, hothers⟩ := secrets_cons_none env hread
        obtain ⟨hsecrets', hothers'⟩ := secrets_cons_none env' hread
        rw [hsecrets, hothers, hsecrets', hothers']
        exact ⟨congrArg _ ih.1, ih.2⟩
      | some secret => exact hcons hread hread
    · exact hcons (secretOption_eq_some.mpr ⟨hname, rfl⟩) (secretOption_eq_some.mpr ⟨hname, rfl⟩)

theorem Separates.env_eq {separated separated' : List String × List DatabaseContainerFile}
    (h : Separates env separated) (h' : Separates env' separated') (hd : DifferInSecrets env env') :
    separated.1 = separated'.1 := by
  obtain ⟨hothers, hsecrets⟩ := hd.others_eq
  by_cases hnone : secrets env = []
  · have hnone' := hsecrets.mp hnone
    rw [h.unchanged hnone, h'.unchanged hnone']
    exact (others_of_no_secrets hnone).symm.trans (hothers.trans (others_of_no_secrets hnone'))
  · rw [h.kept hnone, h'.kept fun hnone' => hnone (hsecrets.mpr hnone'), hothers]

/-- The credentials leave the environment for a file of their own, and what is left does not tell
what they were. -/
theorem separatePgBackrestCredentials_separates (env : List String) :
    ((∃ error, separatePgBackrestCredentials env = .error error) ↔
      ∃ name option value, (name, option) ∈ repositorySecretOptions ∧ assigns name value ∈ env ∧
        HasLineBreak value) ∧
    (∀ separated, separatePgBackrestCredentials env = .ok separated →
      (∀ name option value, (name, option) ∈ repositorySecretOptions →
        assigns name value ∉ separated.1) ∧ Separates env separated) ∧
    (∀ env' separated separated', DifferInSecrets env env' →
      separatePgBackrestCredentials env = .ok separated →
      separatePgBackrestCredentials env' = .ok separated' → separated.1 = separated'.1) := by
  have hseparates {env : List String} {separated : List String × List DatabaseContainerFile}
      (hok : separatePgBackrestCredentials env = .ok separated) : Separates env separated := by
    obtain ⟨separated', hok', hseparates⟩ := separate_ok (clean_of_ok hok)
    cases hok.symm.trans hok'
    exact hseparates
  refine ⟨⟨?_, ?_⟩, fun separated hok => ⟨fun name option value hname =>
    (hseparates hok).no_secret hname, hseparates hok⟩, fun env' separated separated' hd hok hok' =>
    (hseparates hok).env_eq (hseparates hok') hd⟩
  · rintro ⟨error, herror⟩
    by_contra hclean
    obtain ⟨separated, hok, -⟩ := @separate_ok env fun (name, option, value) hmem hbreak =>
      hclean ⟨name, option, value, (mem_secrets.mp hmem).2, (mem_secrets.mp hmem).1, hbreak⟩
    exact nomatch herror.symm.trans hok
  · rintro ⟨name, option, value, hname, hmem, hbreak⟩
    exact separate_error ⟨_, mem_secrets.mpr ⟨hmem, hname⟩, hbreak⟩

example : separatePgBackrestCredentials
    ["PGBACKREST_CONFIG_INCLUDE_PATH=/somewhere/else", "PGBACKREST_REPO1_S3_KEY_SECRET=abc=/+def="] =
    .ok ([includePathEntry], [⟨"/etc/nouva/pgbackrest/repository-credentials.conf",
      "[global]\nrepo1-s3-key-secret=abc=/+def=\n", 0o600, 999, 999⟩]) := by decide +kernel

end

end NouvaAgent.PgBackrestCredentials
