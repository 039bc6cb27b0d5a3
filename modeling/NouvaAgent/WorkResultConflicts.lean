import NouvaAgent.AssignedNames
import NouvaAgent.WorkResultLeaks

namespace NouvaAgent.WorkResult

open LiteralRedaction LogRedaction Json AssignedNames

def isPlainKey (key : Units) : Bool := key != units "__proto__" && !isSensitiveLogKey key

section

variable {process : LogProcess} {redaction : CompiledLogRedaction}

mutual

theorem sanitizeValue_mapStrings (hk : redaction.preserveObjectKeys = true) : (value : Json) →
    Keyed isPlainKey value → sanitizeValue process redaction value =
      mapStrings (sanitizeString process redaction) value
  | .null, _ | .bool _, _ | .num _, _ | .str _, _ => rfl
  | .arr items, h => congrArg Json.arr (sanitizeItems_mapItems hk items h)
  | .obj entries, h => congrArg Json.obj ((sanitizeEntries_mapEntries hk entries [] h.1.1 h.1.2
      (fun _ _ => List.not_mem_nil) h.2).trans (List.nil_append _))

theorem sanitizeItems_mapItems (hk : redaction.preserveObjectKeys = true) : (items : List Json) →
    KeyedItems isPlainKey items → sanitizeItems process redaction items =
      mapItems (sanitizeString process redaction) items
  | [], _ => rfl
  | item :: rest, h => by
    unfold sanitizeItems mapItems
    rw [sanitizeValue_mapStrings hk item h.1, sanitizeItems_mapItems hk rest h.2]

theorem sanitizeEntries_mapEntries (hk : redaction.preserveObjectKeys = true) :
    (entries result : List (Units × Json)) → (entries.map Prod.fst).Nodup →
    (entries.map Prod.fst).all isPlainKey = true →
    (∀ key ∈ entries.map Prod.fst, key ∉ result.map Prod.fst) →
    KeyedEntries isPlainKey entries → sanitizeEntries process redaction entries result =
      result ++ mapEntries (sanitizeString process redaction) entries
  | [], result, _, _, _, _ => (List.append_nil result).symm
  | (key, entry) :: rest, result, hnodup, hplain, hnew, h => by
    rw [List.map_cons, List.nodup_cons] at hnodup
    rw [List.map_cons, List.all_cons, Bool.and_eq_true] at hplain
    rw [List.map_cons, List.forall_mem_cons] at hnew
    obtain ⟨hproto, hsensitive⟩ := Bool.and_eq_true_iff.mp hplain.1
    have hassign (value : Json) : assign result key value = result ++ [(key, value)] :=
      (if_neg (bne_iff_ne.mp hproto)).trans (define_new hnew.1)
    have hnew' : ∀ name ∈ rest.map Prod.fst,
        name ∉ (result ++ [(key, mapStrings (sanitizeString process redaction) entry)]).map
          Prod.fst := by
      intro name hmem hold
      rw [List.map_append, List.mem_append, List.map_singleton, List.mem_singleton] at hold
      obtain hold | rfl := hold
      · exact hnew.2 name hmem hold
      · exact hnodup.1 hmem
    unfold sanitizeEntries mapEntries
    dsimp only
    rw [if_pos hk, if_neg (by simpa using hsensitive), sanitizeValue_mapStrings hk entry h.1,
      hassign, sanitizeEntries_mapEntries hk rest _ hnodup.2 hplain.2 hnew' h.2, List.append_assoc]
    rfl

end

end

/-! What the comparison masks. -/

section

variable {mask : Json} {f : Units → Units} {entries : List (Units × Json)}

theorem maskOwn_eq (key : Units) : maskOwn mask entries key =
    entries.map fun entry => if entry.1 = key then (key, mask) else entry := by
  unfold maskOwn
  by_cases hown : hasOwn entries key = true
  · rw [if_pos hown, define_own (hasOwn_iff.mp hown)]
  · rw [if_neg hown]
    refine (List.map_id entries).symm.trans (List.map_congr_left fun entry hmem => ?_)
    have hne : entry.1 ≠ key := by
      rintro rfl
      exact hown (hasOwn_iff.mpr (List.mem_map_of_mem hmem))
    exact (if_neg hne).symm

theorem foldl_maskOwn (keys : List Units) : keys.foldl (maskOwn mask) entries =
    entries.map fun entry => if entry.1 ∈ keys then (entry.1, mask) else entry := by
  induction keys generalizing entries with
  | nil => simp
  | cons key keys ih =>
    rw [List.foldl_cons, ih, maskOwn_eq, List.map_map]
    refine List.map_congr_left fun entry _ => ?_
    rw [Function.comp_apply]
    by_cases hkey : entry.1 = key
    · subst hkey
      simp
    · simp [hkey]

theorem map_mask_eq (keys : List Units) :
    ((mapEntries f entries).map fun entry =>
        if entry.1 ∈ keys then (entry.1, mask) else entry) =
      (entries.map fun entry => if entry.1 ∈ keys then (entry.1, mask) else entry) ↔
    ∀ entry ∈ entries, entry.1 ∉ keys → ∀ text ∈ strings entry.2, f text = text := by
  rw [mapEntries_eq, List.map_map, List.map_inj_left]
  refine forall₂_congr fun entry _ => ?_
  rw [Function.comp_apply, ← mapStrings_eq_self]
  by_cases hkey : entry.1 ∈ keys
  · simp [hkey]
  · simp [hkey, Prod.ext_iff]

end

/-! What the words of a vocabulary come back as. -/

section

variable {f : Units → Units} {vocabulary : List (Units × (Units → Bool))}
  {entries : List (Units × Json)} {key : Units} {value : Json}

def isWord (vocabulary : List (Units × (Units → Bool))) (key : Units) (value : Json) : Bool :=
  vocabulary.any fun word => word.1 = key && (textIn word.2 (some value)).isSome

def keepWord (vocabulary : List (Units × (Units → Bool))) (f : Units → Units) (key : Units)
    (value : Json) : Json :=
  if isWord vocabulary key value then value else mapStrings f value

theorem keepWord_eq_self : keepWord vocabulary f key value = value ↔
    isWord vocabulary key value = false → ∀ text ∈ strings value, f text = text := by
  unfold keepWord
  cases hword : isWord vocabulary key value with
  | true => simp
  | false => simp [mapStrings_eq_self]

theorem textIn_value {allowed : Units → Bool} {text : Units}
    (h : textIn allowed (some value) = some text) : value = .str text := by
  cases value with
  | str given =>
    simp only [textIn] at h
    split at h
    · rw [Option.some.inj h]
    · cases h
  | _ => cases h

theorem vocabularyFields_cons (word : Units × (Units → Bool)) :
    vocabularyFields (word :: vocabulary) entries =
      ((textIn word.2 (get? entries word.1)).map fun text => (word.1, Json.str text)).toList ++
        vocabularyFields vocabulary entries := by
  rcases word with ⟨name, allowed⟩
  unfold vocabularyFields
  rw [List.filterMap_cons]
  dsimp only
  cases textIn allowed (get? entries name) <;> rfl

theorem get?_vocabularyFields (hvalue : get? entries key = some value) :
    get? (vocabularyFields vocabulary entries) key =
      if isWord vocabulary key value then some value else none := by
  induction vocabulary with
  | nil => rfl
  | cons word rest ih =>
    rw [vocabularyFields_cons]
    unfold isWord at ih ⊢
    rw [List.any_cons]
    by_cases hkey : word.1 = key
    · subst hkey
      rw [hvalue, decide_eq_true rfl, Bool.true_and]
      cases htext : textIn word.2 (some value) with
      | none =>
        rw [Option.isSome_none, Bool.false_or]
        exact ih
      | some text =>
        rw [Option.isSome_some, Bool.true_or, if_pos rfl, textIn_value htext]
        exact (get?_cons _ _).trans (if_pos rfl)
    · rw [decide_eq_false hkey, Bool.false_and, Bool.false_or]
      cases textIn word.2 (get? entries word.1) with
      | none => exact ih
      | some text => exact ((get?_cons _ _).trans (if_neg (Ne.symm hkey))).trans ih

theorem keys_vocabularyFields :
    ((vocabularyFields vocabulary entries).map Prod.fst).Sublist (vocabulary.map Prod.fst) := by
  induction vocabulary with
  | nil => exact List.Sublist.refl _
  | cons word rest ih =>
    rw [vocabularyFields_cons]
    cases textIn word.2 (get? entries word.1) with
    | none => exact ih.cons _
    | some text => exact ih.cons_cons _

theorem vocabularyFields_own (h : key ∈ (vocabularyFields vocabulary entries).map Prod.fst) :
    key ∈ entries.map Prod.fst := by
  obtain ⟨field, hfield, rfl⟩ := List.mem_map.mp h
  obtain ⟨word, _, hword⟩ := List.mem_filterMap.mp hfield
  obtain ⟨text, htext, rfl⟩ := Option.map_eq_some_iff.mp hword
  by_contra hnone
  rw [get?_eq_none hnone] at htext
  cases htext

theorem spread_vocabularyFields (hvocabulary : (vocabulary.map Prod.fst).Nodup)
    (hentries : (entries.map Prod.fst).Nodup) :
    spread (mapEntries f entries) (vocabularyFields vocabulary entries) =
      entries.map fun entry => (entry.1, keepWord vocabulary f entry.1 entry.2) := by
  rw [spread_own (hvocabulary.sublist keys_vocabularyFields) fun key hkey =>
    keys_mapEntries (f := f) entries ▸ vocabularyFields_own hkey, mapEntries_eq, List.map_map]
  refine List.map_congr_left fun entry hmem => ?_
  rw [Function.comp_apply, get?_vocabularyFields (get?_of_mem hentries hmem)]
  unfold keepWord
  by_cases hword : isWord vocabulary entry.1 entry.2 = true
  · rw [if_pos hword, if_pos hword, Option.getD_some]
  · rw [if_neg hword, if_neg hword, Option.getD_none]

end

/-! What a rollout's own fields come back as. -/

section

variable {f : Units → Units} {entries : List (Units × Json)} {key : Units} {value : Json}

def keepRolloutField (f : Units → Units) (key : Units) (value : Json) : Json :=
  if key = units "policy" then parseWorkerShutdownPolicy value
  else if key = units "shutdowns" then
    .arr ((parseWorkerShutdownReports value).map fun report =>
      .obj (shutdownReportEntries report (.str (f report.containerName))))
  else keepWord rolloutVocabulary f key value

def rolloutStrings (key : Units) (value : Json) : List Units :=
  if key = units "policy" then []
  else if key = units "shutdowns" then
    (parseWorkerShutdownReports value).map WorkerShutdownReport.containerName
  else if isWord rolloutVocabulary key value then [] else strings value

def OnWire (key : Units) (value : Json) : Prop :=
  (key = units "policy" → parseWorkerShutdownPolicy value = value) ∧
    (key = units "shutdowns" → .arr ((parseWorkerShutdownReports value).map fun report =>
      .obj (shutdownReportEntries report (.str report.containerName))) = value)

theorem shutdownReportEntries_name {report parsed : WorkerShutdownReport} {text : Units}
    (h : parseWorkerShutdownReport (.obj (shutdownReportEntries report (.str text))) =
      some parsed) : parsed.containerName = text := by
  obtain ⟨containerName, hname, h⟩ := Option.bind_eq_some_iff.mp h
  obtain ⟨_, _, h⟩ := Option.bind_eq_some_iff.mp h
  obtain ⟨_, _, h⟩ := Option.bind_eq_some_iff.mp h
  obtain ⟨_, _, h⟩ := Option.bind_eq_some_iff.mp h
  obtain ⟨_, _, h⟩ := Option.bind_eq_some_iff.mp h
  obtain ⟨_, _, h⟩ := Option.bind_eq_some_iff.mp h
  obtain ⟨_, _, h⟩ := Option.bind_eq_some_iff.mp h
  obtain rfl := Option.some.inj h
  exact (Json.str.inj (textIn_value hname)).symm

theorem filterMap_map_eq_self {α β : Type} {parse : α → Option β} {print : β → α} {xs : List α}
    (h : (xs.filterMap parse).map print = xs) :
    ∀ x ∈ xs, ∃ y, parse x = some y ∧ print y = x := by
  induction xs with
  | nil => exact fun x hx => nomatch hx
  | cons x xs ih =>
    cases hparse : parse x with
    | none =>
      rw [List.filterMap_cons_none hparse] at h
      have hlength := congrArg List.length h
      rw [List.length_map, List.length_cons] at hlength
      have hle := List.length_filterMap_le parse xs
      omega
    | some y =>
      rw [List.filterMap_cons_some hparse, List.map_cons] at h
      obtain ⟨hfirst, hrest⟩ := List.cons.inj h
      exact List.forall_mem_cons.mpr ⟨⟨y, hparse, hfirst⟩, ih hrest⟩

theorem keepShutdowns_eq_self :
    Json.arr ((parseWorkerShutdownReports value).map fun report =>
        .obj (shutdownReportEntries report (.str (f report.containerName)))) = value ↔
      Json.arr ((parseWorkerShutdownReports value).map fun report =>
        .obj (shutdownReportEntries report (.str report.containerName))) = value ∧
      ∀ text ∈ (parseWorkerShutdownReports value).map WorkerShutdownReport.containerName,
        f text = text := by
  have hnames : (∀ text ∈ (parseWorkerShutdownReports value).map
      WorkerShutdownReport.containerName, f text = text) →
      (parseWorkerShutdownReports value).map (fun report =>
        Json.obj (shutdownReportEntries report (.str (f report.containerName)))) =
      (parseWorkerShutdownReports value).map fun report =>
        Json.obj (shutdownReportEntries report (.str report.containerName)) := fun h =>
    List.map_congr_left fun report hmem => by rw [h _ (List.mem_map_of_mem hmem)]
  constructor
  · intro h
    have hfixed : ∀ text ∈ (parseWorkerShutdownReports value).map
        WorkerShutdownReport.containerName, f text = text := by
      intro text htext
      obtain ⟨report, hreport, rfl⟩ := List.mem_map.mp htext
      cases value with
      | arr items =>
        obtain ⟨item, hitem, hparse⟩ := List.mem_filterMap.mp hreport
        obtain ⟨parsed, hparsed, hprint⟩ := filterMap_map_eq_self (Json.arr.inj h) item hitem
        obtain rfl := Option.some.inj (hparse.symm.trans hparsed)
        rw [← hprint] at hparse
        exact (shutdownReportEntries_name hparse).symm
      | _ => cases hreport
    exact ⟨hnames hfixed ▸ h, hfixed⟩
  · rintro ⟨h, hfixed⟩
    rw [hnames hfixed]
    exact h

theorem keepRolloutField_eq_self : keepRolloutField f key value = value ↔
    OnWire key value ∧ ∀ text ∈ rolloutStrings key value, f text = text := by
  unfold keepRolloutField OnWire rolloutStrings
  by_cases hpolicy : key = units "policy"
  · subst hpolicy
    have hother : units "policy" ≠ units "shutdowns" := by decide +kernel
    simp [hother]
  · rw [if_neg hpolicy, if_neg hpolicy]
    by_cases hshutdowns : key = units "shutdowns"
    · subst hshutdowns
      rw [if_pos rfl, if_pos rfl, keepShutdowns_eq_self]
      simp [hpolicy]
    · rw [if_neg hshutdowns, if_neg hshutdowns, keepWord_eq_self]
      cases isWord rolloutVocabulary key value <;> simp [hpolicy, hshutdowns]

theorem mapM_some {α β : Type} (g : α → β) (xs : List α) :
    xs.mapM (fun x => some (g x)) = some (xs.map g) := by
  induction xs with
  | nil => rfl
  | cons x xs ih =>
    rw [List.mapM_cons, ih]
    rfl

def redefined (entries : List (Units × Json)) (key : Units) (g : Json → Json) :
    List (Units × Json) :=
  (get? entries key).toList.map fun value => (key, g value)

theorem get?_redefined (name : Units) (g : Json → Json) :
    get? (redefined entries name g) key =
      if key = name then (get? entries name).map g else none := by
  unfold redefined
  cases get? entries name with
  | none => exact (ite_self none).symm
  | some value => exact get?_cons _ _

theorem keys_redefined (name : Units) (g : Json → Json) :
    (redefined entries name g).map Prod.fst = if name ∈ entries.map Prod.fst then [name] else [] := by
  unfold redefined
  by_cases hname : name ∈ entries.map Prod.fst
  · obtain ⟨value, hvalue⟩ := Option.isSome_iff_exists.mp (hasOwn_iff.mpr hname)
    rw [hvalue, if_pos hname]
    rfl
  · rw [get?_eq_none hname, if_neg hname]
    rfl

theorem sanitizeWorkerRolloutShutdownFields_eq (f : Units → Units)
    (rollout : List (Units × Json)) :
    sanitizeWorkerRolloutShutdownFields rollout (fun name => some (.str (f name))) =
      some (redefined rollout (units "policy") (keepRolloutField f (units "policy")) ++
        redefined rollout (units "shutdowns") (keepRolloutField f (units "shutdowns"))) := by
  have hpolicy : policyFields rollout =
      redefined rollout (units "policy") (keepRolloutField f (units "policy")) := by
    unfold policyFields redefined
    cases get? rollout (units "policy") <;> rfl
  have hshutdowns : shutdownFields rollout (fun name => some (.str (f name))) =
      some (redefined rollout (units "shutdowns") (keepRolloutField f (units "shutdowns"))) := by
    unfold shutdownFields redefined
    cases get? rollout (units "shutdowns") with
    | none => rfl
    | some shutdowns => exact congrArg (Option.map _) (mapM_some _ _)
  unfold sanitizeWorkerRolloutShutdownFields
  rw [hpolicy, hshutdowns]
  rfl

theorem spread_rollout (hentries : (entries.map Prod.fst).Nodup) :
    spread (spread (mapEntries f entries) (collectAgentRolloutVocabularyFields entries))
        (redefined entries (units "policy") (keepRolloutField f (units "policy")) ++
          redefined entries (units "shutdowns") (keepRolloutField f (units "shutdowns"))) =
      entries.map fun entry => (entry.1, keepRolloutField f entry.1 entry.2) := by
  have hother : units "shutdowns" ≠ units "policy" := by decide +kernel
  have hvocabulary : (rolloutVocabulary.map Prod.fst).Nodup := by decide +kernel
  unfold collectAgentRolloutVocabularyFields
  rw [spread_vocabularyFields hvocabulary hentries, spread_own, List.map_map]
  · refine List.map_congr_left fun entry hmem => ?_
    have hget := get?_of_mem hentries hmem
    have happend : get? (redefined entries (units "policy") (keepRolloutField f (units "policy")) ++
        redefined entries (units "shutdowns") (keepRolloutField f (units "shutdowns"))) entry.1 =
        _ := List.lookup_append
    rw [Function.comp_apply, happend]
    change (_, ((get? _ _).or (get? _ _)).getD _) = _
    rw [get?_redefined, get?_redefined]
    by_cases hpolicy : entry.1 = units "policy"
    · rw [if_pos hpolicy, ← hpolicy, hget]
      rfl
    · rw [if_neg hpolicy, Option.none_or]
      by_cases hshutdowns : entry.1 = units "shutdowns"
      · rw [if_pos hshutdowns, ← hshutdowns, hget]
        rfl
      · rw [if_neg hshutdowns, Option.getD_none]
        unfold keepRolloutField
        rw [if_neg hpolicy, if_neg hshutdowns]
  · rw [List.map_append, keys_redefined, keys_redefined]
    split <;> split <;> simp [hother.symm]
  · intro key hkey
    rw [List.map_append, keys_redefined, keys_redefined, List.mem_append] at hkey
    rw [List.map_map]
    change key ∈ entries.map Prod.fst
    obtain hkey | hkey := hkey
    · split at hkey
      · next hown => exact List.mem_singleton.mp hkey ▸ hown
      · cases hkey
    · split at hkey
      · next hown => exact List.mem_singleton.mp hkey ▸ hown
      · cases hkey

/-! What has a field of a result refused. -/

def instanceStrings : Json → List Units
  | .obj entries => entries.flatMap fun entry =>
    if isWord runtimeInstanceVocabulary entry.1 entry.2 then [] else strings entry.2
  | value => strings value

def comparedStrings (key : Units) (value : Json) : List Units :=
  if agentResultDescriptiveKeys.contains key then []
  else match value with
    | .obj entries =>
      if key = units "runtimeMetadata" then entries.flatMap fun entry =>
        if agentRuntimeMetadataDescriptiveKeys.contains entry.1 then [] else strings entry.2
      else if key = units "runtimeInstance" then instanceStrings value
      else if key = units "rollout" then entries.flatMap fun entry =>
        rolloutStrings entry.1 entry.2
      else strings value
    | .arr items =>
      if key = units "runtimeInstances" then items.flatMap instanceStrings else strings value
    | value => strings value

def WellReported (key : Units) (value : Json) : Prop :=
  key = units "rollout" → ∀ entries, value = .obj entries →
    ∀ entry ∈ entries, OnWire entry.1 entry.2

/-- The fields of which a part is a diagnostic, or has a vocabulary of its own; no rollout has
them. -/
def diagnosticKeys : List Units :=
  [units "statusMessage", units "importFailure", units "importProof", units "job"]

theorem map_entries_eq_self {g : Units → Json → Json} :
    (entries.map fun entry => (entry.1, g entry.1 entry.2)) = entries ↔
      ∀ entry ∈ entries, g entry.1 entry.2 = entry.2 := by
  conv_lhs => rhs; rw [← List.map_id entries]
  rw [List.map_inj_left]
  exact forall₂_congr fun entry _ => by simp [Prod.ext_iff]

theorem keepRuntimeInstanceKind_eq_self (hkeyed : Keyed isPlainKey value) :
    keepRuntimeInstanceKind value (mapStrings f value) = value ↔
      ∀ text ∈ instanceStrings value, f text = text := by
  cases value with
  | obj entries =>
    have hvocabulary : (runtimeInstanceVocabulary.map Prod.fst).Nodup := by decide +kernel
    have hspread := spread_vocabularyFields (f := f) hvocabulary hkeyed.1.1
    show Json.obj (spread (mapEntries f entries) (vocabularyFields _ entries)) = .obj entries ↔ _
    rw [Json.obj.injEq, hspread, map_entries_eq_self]
    unfold instanceStrings
    rw [List.forall_mem_flatMap]
    refine forall₂_congr fun entry _ => keepWord_eq_self.trans ?_
    cases isWord runtimeInstanceVocabulary entry.1 entry.2 <;> simp
  | _ => exact mapStrings_eq_self _

theorem keyedItems_mem {allowed : Units → Bool} {items : List Json}
    (h : KeyedItems allowed items) : ∀ item ∈ items, Keyed allowed item := by
  induction items with
  | nil => exact fun item hmem => nomatch hmem
  | cons item items ih => exact List.forall_mem_cons.mpr ⟨h.1, ih h.2⟩

theorem keyedEntries_mem {allowed : Units → Bool} {entries : List (Units × Json)}
    (h : KeyedEntries allowed entries) : ∀ entry ∈ entries, Keyed allowed entry.2 := by
  induction entries with
  | nil => exact fun entry hmem => nomatch hmem
  | cons entry entries ih => exact List.forall_mem_cons.mpr ⟨h.1, ih h.2⟩

theorem keepRuntimeInstances_eq_self {items : List Json} (hkeyed : KeyedItems isPlainKey items) :
    List.zipWith keepRuntimeInstanceKind items (mapItems f items) = items ↔
      ∀ text ∈ items.flatMap instanceStrings, f text = text := by
  rw [mapItems_eq, List.zipWith_map_right, List.zipWith_self, List.forall_mem_flatMap]
  conv_lhs => rhs; rw [← List.map_id items]
  rw [List.map_inj_left]
  exact forall₂_congr fun item hmem =>
    keepRuntimeInstanceKind_eq_self (keyedItems_mem hkeyed item hmem)

theorem normalize_of_plain (hkey : key ∉ diagnosticKeys) (value : Json) :
    normalizeAgentProtocolValueForConflictCheck key value =
      maskAgentResultDescriptiveFields key value := by
  simp only [diagnosticKeys, List.mem_cons, List.not_mem_nil, or_false, not_or] at hkey
  unfold normalizeAgentProtocolValueForConflictCheck
  rw [if_neg hkey.1, if_neg fun h => hkey.2.1 h.1]
  cases value with
  | obj entries => exact if_neg hkey.2.2.2
  | _ => rfl

theorem conflict_of_unmasked (hkey : key ∉ diagnosticKeys)
    (hdescriptive : key ∉ agentResultDescriptiveKeys) (hmetadata : key ≠ units "runtimeMetadata")
    (kept : Json) :
    agentProtocolValueHasRedactionConflict key value kept = false ↔ kept = value := by
  have hmask (value : Json) : maskAgentResultDescriptiveFields key value = value := by
    unfold maskAgentResultDescriptiveFields
    rw [if_neg fun h => hdescriptive (List.contains_iff_mem.mp h)]
    cases value with
    | obj entries => exact if_neg hmetadata
    | _ => rfl
  unfold agentProtocolValueHasRedactionConflict
  rw [normalize_of_plain hkey, normalize_of_plain hkey, hmask, hmask, decide_eq_false_iff_not,
    not_not]
  exact eq_comm

theorem conflict_of_metadata (value : Json) :
    agentProtocolValueHasRedactionConflict (units "runtimeMetadata") value (mapStrings f value) =
        false ↔
      ∀ text ∈ comparedStrings (units "runtimeMetadata") value, f text = text := by
  have hdiagnostic : units "runtimeMetadata" ∉ diagnosticKeys := by decide +kernel
  have hinstances : units "runtimeMetadata" ≠ units "runtimeInstances" := by decide +kernel
  have hcontains : agentResultDescriptiveKeys.contains (units "runtimeMetadata") = false := by
    decide +kernel
  unfold agentProtocolValueHasRedactionConflict comparedStrings
  rw [normalize_of_plain hdiagnostic, normalize_of_plain hdiagnostic, hcontains,
    if_neg Bool.false_ne_true, decide_eq_false_iff_not, not_not, eq_comm]
  unfold maskAgentResultDescriptiveFields
  rw [hcontains]
  cases value with
  | obj entries =>
    simp only [Bool.false_eq_true, if_false, if_true, mapStrings]
    rw [foldl_maskOwn, foldl_maskOwn, Json.obj.injEq, map_mask_eq, List.forall_mem_flatMap]
    refine forall₂_congr fun entry _ => ?_
    by_cases hkey : entry.1 ∈ agentRuntimeMetadataDescriptiveKeys <;> simp [hkey]
  | arr items =>
    simp only [Bool.false_eq_true, if_false, if_neg hinstances]
    exact mapStrings_eq_self _
  | _ => exact mapStrings_eq_self _

theorem conflict_of_descriptive (hkey : key ∈ agentResultDescriptiveKeys) (kept : Json) :
    agentProtocolValueHasRedactionConflict key value kept = false := by
  have hdiagnostic : ∀ key ∈ agentResultDescriptiveKeys, key ∉ diagnosticKeys := by
    decide +kernel
  unfold agentProtocolValueHasRedactionConflict
  rw [normalize_of_plain (hdiagnostic key hkey), normalize_of_plain (hdiagnostic key hkey)]
  unfold maskAgentResultDescriptiveFields
  rw [if_pos (List.contains_iff_mem.mpr hkey), if_pos (List.contains_iff_mem.mpr hkey)]
  exact decide_eq_false (not_not.mpr rfl)

theorem comparedStrings_instance (value : Json) :
    comparedStrings (units "runtimeInstance") value = instanceStrings value := by
  cases value <;> rfl

theorem comparedStrings_instances (items : List Json) :
    comparedStrings (units "runtimeInstances") (.arr items) = items.flatMap instanceStrings := rfl

theorem comparedStrings_rollout (entries : List (Units × Json)) :
    comparedStrings (units "rollout") (.obj entries) =
      entries.flatMap fun entry => rolloutStrings entry.1 entry.2 := rfl

theorem comparedStrings_of_plain (hdescriptive : key ∉ agentResultDescriptiveKeys)
    (hmetadata : key ≠ units "runtimeMetadata") (hinstance : key ≠ units "runtimeInstance")
    (hinstances : ∀ items, value = .arr items → key ≠ units "runtimeInstances")
    (hrollout : ∀ entries, value = .obj entries → key ≠ units "rollout") :
    comparedStrings key value = strings value := by
  unfold comparedStrings
  rw [if_neg (mt List.contains_iff_mem.mp hdescriptive)]
  cases value with
  | obj entries =>
    dsimp only
    rw [if_neg hmetadata, if_neg hinstance, if_neg (hrollout entries rfl)]
  | arr items => exact if_neg (hinstances items rfl)
  | _ => rfl

theorem keepVocabulary_of_plain {redactContainerName : Units → Option Json}
    (hinstance : key ≠ units "runtimeInstance") (hproof : key ≠ units "importProof")
    (hinstances : ∀ items, value = .arr items → key ≠ units "runtimeInstances")
    (hrollout : ∀ entries, value = .obj entries → key ≠ units "rollout") :
    keepVocabulary redactContainerName key value (mapStrings f value) =
      some (mapStrings f value) := by
  unfold keepVocabulary
  rw [if_neg hinstance, if_neg hproof]
  cases value with
  | arr items => exact if_neg (hinstances items rfl)
  | obj entries => exact if_neg (hrollout entries rfl)
  | _ => rfl

/-- A field of a rollout's result is refused exactly where redaction changes one of the strings that
are compared, or where the rollout's reports are not as they are parsed. -/
theorem keepVocabulary_conflict (hkey : key ∉ diagnosticKeys) (hkeyed : Keyed isPlainKey value) :
    ∃ kept, keepVocabulary (fun name => some (.str (f name))) key value (mapStrings f value) =
        some kept ∧
      (agentProtocolValueHasRedactionConflict key value kept = false ↔
        WellReported key value ∧ ∀ text ∈ comparedStrings key value, f text = text) := by
  have hproof : key ≠ units "importProof" := by
    rintro rfl
    exact hkey (by decide +kernel)
  by_cases hinstance : key = units "runtimeInstance"
  · subst hinstance
    refine ⟨_, if_pos rfl, ?_⟩
    rw [conflict_of_unmasked hkey (by decide +kernel) (by decide +kernel),
      keepRuntimeInstanceKind_eq_self hkeyed, comparedStrings_instance]
    exact (and_iff_right fun h => absurd h (by decide +kernel)).symm
  by_cases hinstances : key = units "runtimeInstances" ∧ ∃ items, value = .arr items
  · obtain ⟨rfl, items, rfl⟩ := hinstances
    refine ⟨.arr (List.zipWith keepRuntimeInstanceKind items (mapItems f items)), rfl, ?_⟩
    rw [conflict_of_unmasked hkey (by decide +kernel) (by decide +kernel), Json.arr.injEq,
      keepRuntimeInstances_eq_self hkeyed, comparedStrings_instances]
    exact (and_iff_right fun h => absurd h (by decide +kernel)).symm
  by_cases hrollout : key = units "rollout" ∧ ∃ entries, value = .obj entries
  · obtain ⟨rfl, entries, rfl⟩ := hrollout
    refine ⟨.obj (entries.map fun entry => (entry.1, keepRolloutField f entry.1 entry.2)), ?_, ?_⟩
    · unfold keepVocabulary
      dsimp only [mapStrings]
      rw [if_neg hinstance, if_neg hproof, if_pos rfl, sanitizeWorkerRolloutShutdownFields_eq,
        Option.map_some, spread_rollout hkeyed.1.1]
    · rw [conflict_of_unmasked hkey (by decide +kernel) (by decide +kernel), Json.obj.injEq,
        map_entries_eq_self, comparedStrings_rollout, List.forall_mem_flatMap]
      have hreported : WellReported (units "rollout") (.obj entries) ↔
          ∀ entry ∈ entries, OnWire entry.1 entry.2 :=
        ⟨fun h => h rfl entries rfl, fun h _ _ heq => Json.obj.inj heq ▸ h⟩
      rw [hreported, ← forall₂_and]
      exact forall₂_congr fun entry _ => keepRolloutField_eq_self
  refine ⟨_, keepVocabulary_of_plain hinstance hproof
    (fun items heq h => hinstances ⟨h, items, heq⟩)
    (fun entries heq h => hrollout ⟨h, entries, heq⟩), ?_⟩
  have hreported : WellReported key value := fun h entries heq =>
    absurd ⟨h, entries, heq⟩ hrollout
  rw [and_iff_right hreported]
  by_cases hdescriptive : key ∈ agentResultDescriptiveKeys
  · have hnone : comparedStrings key value = [] :=
      if_pos (List.contains_iff_mem.mpr hdescriptive)
    rw [conflict_of_descriptive hdescriptive, hnone]
    exact iff_of_true rfl fun _ h => nomatch h
  by_cases hmetadata : key = units "runtimeMetadata"
  · rw [hmetadata]
    exact conflict_of_metadata value
  rw [conflict_of_unmasked hkey hdescriptive hmetadata, mapStrings_eq_self,
    comparedStrings_of_plain hdescriptive hmetadata hinstance
      (fun items heq h => hinstances ⟨h, items, heq⟩)
      fun entries heq h => hrollout ⟨h, entries, heq⟩]

end

section

variable {process : LogProcess} {environmentVariables : EnvironmentVariableMap}
  {operationalValues assignedNames : List Units} {result : List (Units × Json)}

theorem sanitizeProtocolKeys_conflict_iff {passes : Units → Json → Prop}
    (hfields : ∀ key value, get? result key = some value → ∃ kept,
      sanitizeAgentProtocolValue process key value environmentVariables operationalValues
          assignedNames = some kept ∧
        (agentProtocolValueHasRedactionConflict key value kept = false ↔ passes key value))
    (keys : List Units) (safeResult : List (Units × Json)) :
    sanitizeProtocolKeys process result environmentVariables operationalValues assignedNames keys
        safeResult = .error .redactionConflict ↔
      ∃ key ∈ keys, ∃ value, get? result key = some value ∧ ¬ passes key value := by
  induction keys generalizing safeResult with
  | nil => simp [sanitizeProtocolKeys]
  | cons key keys ih =>
    rw [List.exists_mem_cons_iff]
    unfold sanitizeProtocolKeys sanitizeProtocolKey
    cases hget : get? result key with
    | none => simpa using ih safeResult
    | some value =>
      obtain ⟨kept, hkept, hpasses⟩ := hfields key value hget
      dsimp only
      rw [hkept]
      dsimp only
      cases hconflict : agentProtocolValueHasRedactionConflict key value kept with
      | true =>
        have hfails : ¬ passes key value := fun h => by simp [hpasses.mpr h] at hconflict
        simp [hfails]
      | false =>
        have hpassed := hpasses.mp hconflict
        simpa [hconflict, hpassed] using ih _

def resultStrings (result : List (Units × Json)) : List Units :=
  result.flatMap fun field => comparedStrings field.1 field.2

def IsRolloutResult (result : List (Units × Json)) : Prop :=
  Keyed isPlainKey (.obj result) ∧ ∀ key ∈ result.map Prod.fst,
    key ∈ agentWorkResultProtocolKeys ∧ key ∉ diagnosticKeys

/-- A rollout's result is refused exactly where redaction changes one of the strings that are
compared, or where the rollout's reports are not as they are parsed. -/
theorem sanitizeAgentWorkResult_conflict_iff (h : IsRolloutResult result) :
    sanitizeAgentWorkResult process environmentVariables operationalValues assignedNames
        (some result) = .error .redactionConflict ↔
      operationalExclusions operationalValues ≠ none ∧
        ((∃ field ∈ result, ¬ WellReported field.1 field.2) ∨
          ∃ text ∈ resultStrings result, redactText process environmentVariables operationalValues
            assignedNames text ≠ some (.str text)) := by
  obtain ⟨hkeyed, hkeys⟩ := h
  unfold sanitizeAgentWorkResult
  dsimp only
  obtain ⟨hnone, hsanitized⟩ | ⟨hexclusions, safeResult, hsanitized⟩ := sanitizeSensitiveValue_obj
    process environmentVariables operationalValues assignedNames result
  · rw [hsanitized]
    exact iff_of_false nofun fun h => h.1 hnone
  rw [hsanitized, and_iff_right hexclusions]
  dsimp only
  have hsome := compileLogRedaction_isSome process
    (protocolOptions process environmentVariables operationalValues assignedNames)
  obtain ⟨redaction, hcompiled⟩ := Option.isSome_iff_exists.mp
    (hsome.trans (Option.isSome_iff_ne_none.mpr hexclusions))
  have hredact (text : Units) : redactText process environmentVariables operationalValues
      assignedNames text = some (.str (sanitizeString process redaction text)) := by
    unfold redactText
    rw [sanitizeSensitiveProtocolValue_eq, hcompiled, Option.map_some, sanitizeValue]
  have hfields (key : Units) (value : Json) (hget : get? result key = some value) : ∃ kept,
      sanitizeAgentProtocolValue process key value environmentVariables operationalValues
          assignedNames = some kept ∧
        (agentProtocolValueHasRedactionConflict key value kept = false ↔
          WellReported key value ∧ ∀ text ∈ comparedStrings key value,
            sanitizeString process redaction text = text) := by
    have hmem := mem_of_get? hget
    have hvalue := keyedEntries_mem hkeyed.2 _ hmem
    have hkept := keepVocabulary_conflict (f := sanitizeString process redaction)
      (hkeys key (List.mem_map_of_mem hmem)).2 hvalue
    unfold sanitizeAgentProtocolValue
    rw [sanitizeSensitiveProtocolValue_eq, hcompiled, Option.map_some, Option.bind_some,
      sanitizeValue_mapStrings (compileLogRedaction_keys hcompiled).1 value hvalue]
    have hnames := funext hredact
    unfold redactText at hnames
    rw [hnames]
    exact hkept
  have hfailed : (sanitizeProtocolKeys process result environmentVariables operationalValues
      assignedNames agentWorkResultProtocolKeys safeResult).map some =
        .error .redactionConflict ↔ sanitizeProtocolKeys process result environmentVariables
      operationalValues assignedNames agentWorkResultProtocolKeys safeResult =
        .error .redactionConflict := by
    cases sanitizeProtocolKeys process result environmentVariables operationalValues assignedNames
      agentWorkResultProtocolKeys safeResult <;> simp [Except.map]
  rw [hfailed, sanitizeProtocolKeys_conflict_iff hfields]
  unfold resultStrings
  simp only [hredact, List.mem_flatMap]
  constructor
  · rintro ⟨key, -, value, hget, hfails⟩
    have hmem := mem_of_get? hget
    rw [not_and_or] at hfails
    obtain hfails | hfails := hfails
    · exact .inl ⟨_, hmem, hfails⟩
    · push Not at hfails
      obtain ⟨text, htext, hne⟩ := hfails
      exact .inr ⟨text, ⟨_, hmem, htext⟩, by simpa using hne⟩
  · intro h
    have hfield : ∃ field ∈ result, ¬ (WellReported field.1 field.2 ∧
        ∀ text ∈ comparedStrings field.1 field.2, sanitizeString process redaction text = text) := by
      obtain ⟨field, hmem, hfails⟩ | ⟨text, ⟨field, hmem, htext⟩, hne⟩ := h
      · exact ⟨field, hmem, fun h => hfails h.1⟩
      · exact ⟨field, hmem, fun h => hne (by rw [h.2 text htext])⟩
    obtain ⟨field, hmem, hfails⟩ := hfield
    exact ⟨field.1, (hkeys _ (List.mem_map_of_mem hmem)).1, field.2,
      get?_of_mem hkeyed.1.1 hmem, hfails⟩

end

def imageResult (imageUrl : String) : List (Units × Json) :=
  [(units "status", .str (units "running")), (units "imageUrl", .str (units imageUrl))]

/-- A password that is part of the image's name has the whole deployment refused. -/
theorem sanitizeAgentWorkResult_conflict_iff_image :
    sanitizeAgentWorkResult plainProcess [(units "PASSWORD", some (units "hunter2"))]
        [units "nouva.sh"] [] (some (imageResult "nouva/hunter2:1")) =
      .error .redactionConflict := by
  have hkeyed : Keyed isPlainKey (.obj (imageResult "nouva/hunter2:1")) :=
    ⟨by decide +kernel, trivial, trivial, trivial⟩
  exact (sanitizeAgentWorkResult_conflict_iff ⟨hkeyed, by decide +kernel⟩).mpr
    ⟨by decide +kernel, .inr ⟨units "nouva/hunter2:1", by decide +kernel, by decide +kernel⟩⟩

end NouvaAgent.WorkResult
