import NouvaAgent.Reading.Lines
import NouvaAgent.TraefikRuntime

namespace NouvaAgent

open Text Reading

structure TraefikRouteConfig where
  fileKey : String
  hostnames : Option (List String) := none
  providedHostnames : Option (List String) := none
  customHostnames : Option (List String) := none
  serviceUrl : String
  passHostHeader : Option Bool := none
  replacePath : Option String := none

namespace TraefikRoutes

open TraefikRuntime

def quoteHostnames (hostnames : List String) : String :=
  " || ".intercalate (hostnames.map fun hostname => "Host(`" ++ hostname ++ "`)")

section

variable (route : TraefikRouteConfig)

def providedHostnames : List String := route.providedHostnames.getD []

def customHostnames : List String :=
  route.customHostnames.getD
    (if (providedHostnames route).length = 0 then route.hostnames.getD [] else [])

def providedHttpRouterName : String := "http-" ++ route.fileKey

def customHttpRouterName : String := "http-custom-" ++ route.fileKey

def customHttpsRouterName : String := "https-" ++ route.fileKey

def redirectMiddlewareName : String := "redirect-" ++ route.fileKey

def replacePathMiddlewareName : String := "replace-path-" ++ route.fileKey

def serviceName : String := "svc-" ++ route.fileKey

def whenReplacing (lines : String → List String) : List String :=
  match route.replacePath with
  | none => []
  | some path => if path = "" then [] else lines path

def providedRouter : List String :=
  if 0 < (providedHostnames route).length then
    ["    " ++ providedHttpRouterName route ++ ":",
      "      rule: \"" ++ quoteHostnames (providedHostnames route) ++ "\"",
      "      entryPoints:",
      "        - web",
      "      service: " ++ serviceName route]
  else []

def customHttpRouter : List String :=
  ("    " ++ customHttpRouterName route ++ ":") ::
    (["      rule: \"" ++ quoteHostnames (customHostnames route) ++ "\"",
      "      entryPoints:",
      "        - web",
      "      middlewares:",
      "        - " ++ redirectMiddlewareName route] ++
    whenReplacing route (fun _ => ["        - " ++ replacePathMiddlewareName route]) ++
    ["      service: " ++ serviceName route])

def customHttpsRouter : List String :=
  ("    " ++ customHttpsRouterName route ++ ":") ::
    (["      rule: \"" ++ quoteHostnames (customHostnames route) ++ "\"",
      "      entryPoints:",
      "        - websecure"] ++
    whenReplacing route (fun _ =>
      ["      middlewares:", "        - " ++ replacePathMiddlewareName route]) ++
    ["      service: " ++ serviceName route,
      "      tls:",
      "        certResolver: letsencrypt"])

def middlewares : List String :=
  "  middlewares:" ::
    (["    " ++ redirectMiddlewareName route ++ ":",
      "      redirectScheme:",
      "        scheme: https",
      "        permanent: true"] ++
    whenReplacing route (fun path =>
      ["    " ++ replacePathMiddlewareName route ++ ":",
        "      replacePath:",
        "        path: " ++ path]))

def services : List String :=
  ["  services:",
    "    " ++ serviceName route ++ ":",
    "      loadBalancer:",
    "        passHostHeader: " ++ if route.passHostHeader ≠ some false then "true" else "false",
    "        servers:",
    "          - url: " ++ route.serviceUrl]

def customLines : List String :=
  if 0 < (customHostnames route).length then
    customHttpRouter route ++ customHttpsRouter route ++ middlewares route
  else []

def buildTraefikRouteConfig : String :=
  serializeYaml (["http:", "  routers:"] ++ providedRouter route ++ customLines route ++
    services route)

end

def readLine (s : Bool × ℕ) (line : List Char) : Bool × ℕ :=
  if opensRouters line then (true, s.2)
  else if closesRouters line then (false, s.2)
  else if s.1 && declaresRouter line then (s.1, s.2 + 1)
  else (s.1, s.2)

theorem count_eq (content : String) : countDeclaredTraefikRouters content =
    ((lines content.toList).foldl readLine (false, 0)).2 := rfl

theorem lines_eq (content : List Char) : lines content =
    (completed '\n' content).map (withoutLast '\r') ++ [unfinished '\n' content] := by
  unfold lines completed unfinished
  dsimp only
  rw [List.getLastD_eq_getLast?, List.getLast?_eq_some_getLast (List.splitOn_ne_nil _ _)]
  rfl

theorem serializeYaml_cons (line : String) {rest : List String} (h : rest ≠ []) :
    serializeYaml (line :: rest) = line ++ "\n" ++ serializeYaml rest := by
  rw [serializeYaml, serializeYaml, String.intercalate_cons_of_ne_nil h]
  simp only [String.append_assoc]

theorem lines_serializeYaml {written : List String} (hsome : written ≠ [])
    (h : ∀ line ∈ written, '\n' ∉ line.toList) :
    lines (serializeYaml written).toList =
      written.map (fun line => withoutLast '\r' line.toList) ++ [[]] := by
  have hpieces : completed '\n' (serializeYaml written).toList = written.map String.toList ∧
      unfinished '\n' (serializeYaml written).toList = [] := by
    induction written with
    | nil => exact absurd rfl hsome
    | cons line rest ih =>
      rw [List.forall_mem_cons] at h
      by_cases hrest : rest = []
      · have hone : (serializeYaml [line]).toList = line.toList ++ '\n' :: [] := by
          simp [serializeYaml]
        rw [hrest, hone, completed_cons h.1, unfinished_cons h.1]
        exact ⟨rfl, rfl⟩
      · obtain ⟨hcompleted, hunfinished⟩ := ih hrest h.2
        have hcons : (serializeYaml (line :: rest)).toList =
            line.toList ++ '\n' :: (serializeYaml rest).toList := by
          rw [serializeYaml_cons line hrest]
          simp
        rw [hcons, completed_cons h.1, unfinished_cons h.1, hcompleted, hunfinished]
        exact ⟨rfl, rfl⟩
  rw [lines_eq, hpieces.1, hpieces.2, List.map_map]
  rfl

/-! How the count reads what the writer writes. -/

theorem readLine_nested (s : Bool × ℕ) (rest : List Char) :
    readLine s ("      ".toList ++ rest) = s := by
  have hopens : opensRouters ("      ".toList ++ rest) = false := by
    simp [opensRouters]
  have hcloses : closesRouters ("      ".toList ++ rest) = false := by
    simp [closesRouters]
  have hspace : isWhiteSpace ' ' = true := by decide
  have hdeclares : declaresRouter ("      ".toList ++ rest) = false := by
    simp [declaresRouter, hspace]
  rw [readLine, hopens, hcloses, hdeclares, Bool.and_false, if_neg Bool.false_ne_true,
    if_neg Bool.false_ne_true, if_neg Bool.false_ne_true]

def Plain (name : List Char) : Prop := name ≠ [] ∧ ∀ c ∈ name, isWhiteSpace c = false ∧ c ≠ ':'

theorem readLine_router (n : ℕ) {name : List Char} (h : Plain name) :
    readLine (true, n) ("    ".toList ++ name ++ [':']) = (true, n + 1) := by
  obtain ⟨hsome, hplain⟩ := h
  have hopens : opensRouters ("    ".toList ++ name ++ [':']) = false := by
    simp [opensRouters]
  have hcloses : closesRouters ("    ".toList ++ name ++ [':']) = false := by
    simp [closesRouters]
  have hname : (name ++ [':']).takeWhile (fun c => !isWhiteSpace c && decide (c ≠ ':')) = name := by
    rw [List.takeWhile_append_of_pos]
    · simp
    · intro c hc
      rw [(hplain c hc).1]
      simpa using (hplain c hc).2
  have hdeclares : declaresRouter ("    ".toList ++ name ++ [':']) = true := by
    have hdrop : ("    ".toList ++ name ++ [':']).drop 4 = name ++ [':'] := by
      rw [List.append_assoc]
      rfl
    have htake : ("    ".toList ++ name ++ [':']).take 4 = "    ".toList := by
      rw [List.append_assoc]
      rfl
    have hempty : name.isEmpty = false := by simpa using hsome
    rw [declaresRouter, hdrop, htake, hname, hempty, List.drop_left]
    rfl
  rw [readLine, hopens, hcloses, hdeclares, if_neg Bool.false_ne_true, if_neg Bool.false_ne_true]
  rfl

theorem readLine_outside (n : ℕ) {line : List Char} (h : opensRouters line = false) :
    readLine (false, n) line = (false, n) := by
  rw [readLine, h, if_neg Bool.false_ne_true, Bool.false_and, if_neg Bool.false_ne_true]
  split
  · rfl
  · rfl

theorem withoutLast_append {xs : List Char} (h : xs.getLast? ≠ some '\r') (ys : List Char) :
    withoutLast '\r' (xs ++ ys) = xs ++ withoutLast '\r' ys := by
  unfold withoutLast
  by_cases hys : ys = []
  · rw [hys, List.append_nil, if_neg h, if_neg (by simp), List.append_nil]
  · rw [List.getLast?_append_of_ne_nil _ hys]
    split
    · exact List.dropLast_append_of_ne_nil hys
    · rfl

def readLines (s : Bool × ℕ) (written : List String) : Bool × ℕ :=
  (written.map fun line => withoutLast '\r' line.toList).foldl readLine s

theorem readLines_append (s : Bool × ℕ) (before after : List String) :
    readLines s (before ++ after) = readLines (readLines s before) after := by
  rw [readLines, List.map_append, List.foldl_append]
  rfl

theorem readLines_cons (s : Bool × ℕ) (line : String) (after : List String) :
    readLines s (line :: after) =
      readLines (readLine s (withoutLast '\r' line.toList)) after := rfl

def Nested (line : String) : Prop := ∃ rest, line.toList = "      ".toList ++ rest

theorem readLines_nested (s : Bool × ℕ) {written : List String} (h : ∀ line ∈ written, Nested line) :
    readLines s written = s := by
  induction written with
  | nil => rfl
  | cons line written ih =>
    rw [List.forall_mem_cons] at h
    obtain ⟨⟨rest, hline⟩, hrest⟩ := h
    rw [readLines_cons, hline, withoutLast_append (by decide), readLine_nested, ih hrest]

theorem readLines_router (n : ℕ) {name : String} {written : List String} (h : Plain name.toList)
    (hnested : ∀ line ∈ written, Nested line) :
    readLines (true, n) (("    " ++ name ++ ":") :: written) = (true, n + 1) := by
  have hline : ("    " ++ name ++ ":").toList = "    ".toList ++ name.toList ++ [':'] := by
    rw [String.toList_append, String.toList_append]
    rfl
  have hlast : withoutLast '\r' ("    ".toList ++ name.toList ++ [':']) =
      "    ".toList ++ name.toList ++ [':'] := by
    unfold withoutLast
    rw [List.getLast?_append_of_ne_nil _ (by simp), if_neg (by simp)]
  rw [readLines_cons, hline, hlast, readLine_router n h, readLines_nested _ hnested]

theorem readLines_outside (n : ℕ) {written : List String}
    (h : ∀ line ∈ written, opensRouters (withoutLast '\r' line.toList) = false) :
    readLines (false, n) written = (false, n) := by
  induction written with
  | nil => rfl
  | cons line written ih =>
    rw [List.forall_mem_cons] at h
    rw [readLines_cons, readLine_outside n h.1, ih h.2]

/-- A route that can be written line by line, with names that are read back as names. -/
structure Writable (route : TraefikRouteConfig) : Prop where
  fileKey : ∀ c ∈ route.fileKey.toList, isWhiteSpace c = false ∧ c ≠ ':'
  providedHostnames : ∀ hostname ∈ providedHostnames route, '\n' ∉ hostname.toList
  customHostnames : ∀ hostname ∈ customHostnames route, '\n' ∉ hostname.toList
  serviceUrl : '\n' ∉ route.serviceUrl.toList
  replacePath : ∀ path, route.replacePath = some path → '\n' ∉ path.toList

variable {route : TraefikRouteConfig}

theorem plain_append {start : String} (hstart : Plain start.toList) (h : Writable route) :
    Plain (start ++ route.fileKey).toList := by
  obtain ⟨hsome, hplain⟩ := hstart
  rw [String.toList_append]
  refine ⟨by simp [hsome], ?_⟩
  intro c hc
  rcases List.mem_append.mp hc with hc | hc
  · exact hplain c hc
  · exact h.fileKey c hc

theorem forall_whenReplacing {P : String → Prop} {lines : String → List String}
    (h : ∀ path, route.replacePath = some path → ∀ line ∈ lines path, P line) :
    ∀ line ∈ whenReplacing route lines, P line := by
  unfold whenReplacing
  split
  · simp
  · next path hpath =>
    split
    · simp
    · exact h path hpath

theorem readLines_providedRouter (h : Writable route) (n : ℕ) :
    readLines (true, n) (providedRouter route) =
      (true, n + if 0 < (providedHostnames route).length then 1 else 0) := by
  unfold providedRouter
  split
  · apply readLines_router n (plain_append (by simp [Plain, isWhiteSpace]) h)
    simp [Nested]
  · rfl

theorem readLines_customHttpRouter (h : Writable route) (n : ℕ) :
    readLines (true, n) (customHttpRouter route) = (true, n + 1) := by
  apply readLines_router n (plain_append (by simp [Plain, isWhiteSpace]) h)
  have hreplace : ∀ line ∈ whenReplacing route
      (fun _ => ["        - " ++ replacePathMiddlewareName route]), Nested line :=
    forall_whenReplacing (by simp [Nested])
  simp only [List.forall_mem_append]
  exact ⟨⟨by simp [Nested], hreplace⟩, by simp [Nested]⟩

theorem readLines_customHttpsRouter (h : Writable route) (n : ℕ) :
    readLines (true, n) (customHttpsRouter route) = (true, n + 1) := by
  apply readLines_router n (plain_append (by simp [Plain, isWhiteSpace]) h)
  have hreplace : ∀ line ∈ whenReplacing route (fun _ =>
      ["      middlewares:", "        - " ++ replacePathMiddlewareName route]), Nested line :=
    forall_whenReplacing (by simp [Nested])
  simp only [List.forall_mem_append]
  exact ⟨⟨by simp [Nested], hreplace⟩, by simp [Nested]⟩

def Indented (line : String) : Prop := ∃ rest, line.toList = "    ".toList ++ rest

theorem opensRouters_indented {line : String} (h : Indented line) :
    opensRouters (withoutLast '\r' line.toList) = false := by
  obtain ⟨rest, hline⟩ := h
  rw [hline, withoutLast_append (by decide)]
  simp [opensRouters]

theorem readLines_section (s : Bool × ℕ) {first : String} {written : List String}
    (hopens : opensRouters (withoutLast '\r' first.toList) = false)
    (hcloses : closesRouters (withoutLast '\r' first.toList) = true)
    (h : ∀ line ∈ written, Indented line) :
    readLines s (first :: written) = (false, s.2) := by
  have hfirst : readLine s (withoutLast '\r' first.toList) = (false, s.2) := by
    rw [readLine, hopens, hcloses, if_neg Bool.false_ne_true, if_pos rfl]
  rw [readLines_cons, hfirst,
    readLines_outside _ fun line hline => opensRouters_indented (h line hline)]

theorem readLines_middlewares (s : Bool × ℕ) :
    readLines s (middlewares route) = (false, s.2) := by
  apply readLines_section s (by decide) (by decide)
  have hreplace : ∀ line ∈ whenReplacing route (fun path =>
      ["    " ++ replacePathMiddlewareName route ++ ":", "      replacePath:",
        "        path: " ++ path]), Indented line :=
    forall_whenReplacing (by simp [Indented])
  rw [List.forall_mem_append]
  exact ⟨by simp [Indented], hreplace⟩

theorem readLines_services (s : Bool × ℕ) : readLines s (services route) = (false, s.2) := by
  apply readLines_section s (by decide) (by decide)
  simp [Indented]

theorem readLines_customLines (h : Writable route) (n : ℕ) :
    (readLines (true, n) (customLines route)).2 =
      n + if 0 < (customHostnames route).length then 2 else 0 := by
  unfold customLines
  split
  · rw [readLines_append, readLines_append, readLines_customHttpRouter h,
      readLines_customHttpsRouter h, readLines_middlewares]
  · rfl

theorem single_quoteHostnames {hostnames : List String}
    (h : ∀ hostname ∈ hostnames, '\n' ∉ hostname.toList) :
    '\n' ∉ (quoteHostnames hostnames).toList := by
  unfold quoteHostnames
  induction hostnames with
  | nil => decide
  | cons hostname hostnames ih =>
    rw [List.forall_mem_cons] at h
    have hhost : '\n' ∉ ("Host(`" ++ hostname ++ "`)").toList := by simp [h.1]
    rw [List.map_cons]
    by_cases hrest : hostnames = []
    · rw [hrest, List.map_nil, String.intercalate_singleton]
      exact hhost
    · rw [String.intercalate_cons_of_ne_nil (by simpa using hrest), String.toList_append,
        String.toList_append]
      simp only [List.mem_append, not_or]
      exact ⟨⟨hhost, by decide⟩, ih h.2⟩

theorem single_whenReplacing (h : Writable route) {lines : String → List String}
    (hlines : ∀ path, '\n' ∉ path.toList → ∀ line ∈ lines path, '\n' ∉ line.toList) :
    ∀ line ∈ whenReplacing route lines, '\n' ∉ line.toList :=
  @forall_whenReplacing route (fun line => '\n' ∉ line.toList) lines
    fun path hpath => hlines path (h.replacePath path hpath)

theorem single_fileKey (h : Writable route) : '\n' ∉ route.fileKey.toList :=
  fun hmem => absurd (h.fileKey _ hmem).1 (by decide)

theorem single_providedRouter (h : Writable route) :
    ∀ line ∈ providedRouter route, '\n' ∉ line.toList := by
  have hkey := single_fileKey h
  have hquoted := single_quoteHostnames h.providedHostnames
  unfold providedRouter
  split
  · simp [providedHttpRouterName, serviceName, hkey, hquoted]
  · simp

theorem single_customHttpRouter (h : Writable route) :
    ∀ line ∈ customHttpRouter route, '\n' ∉ line.toList := by
  have hkey := single_fileKey h
  have hquoted := single_quoteHostnames h.customHostnames
  unfold customHttpRouter
  simp only [List.forall_mem_cons, List.forall_mem_append]
  refine ⟨?_, ⟨?_, single_whenReplacing h ?_⟩, ?_⟩
  · simp [customHttpRouterName, hkey]
  · simp [redirectMiddlewareName, hkey, hquoted]
  · simp [replacePathMiddlewareName, hkey]
  · simp [serviceName, hkey]

theorem single_customHttpsRouter (h : Writable route) :
    ∀ line ∈ customHttpsRouter route, '\n' ∉ line.toList := by
  have hkey := single_fileKey h
  have hquoted := single_quoteHostnames h.customHostnames
  unfold customHttpsRouter
  simp only [List.forall_mem_cons, List.forall_mem_append]
  refine ⟨?_, ⟨?_, single_whenReplacing h ?_⟩, ?_⟩
  · simp [customHttpsRouterName, hkey]
  · simp [hquoted]
  · simp [replacePathMiddlewareName, hkey]
  · simp [serviceName, hkey]

theorem single_middlewares (h : Writable route) :
    ∀ line ∈ middlewares route, '\n' ∉ line.toList := by
  have hkey := single_fileKey h
  unfold middlewares
  simp only [List.forall_mem_cons, List.forall_mem_append]
  refine ⟨?_, ?_, single_whenReplacing h ?_⟩
  · simp
  · simp [redirectMiddlewareName, hkey]
  · simp [replacePathMiddlewareName, hkey]

theorem single_services (h : Writable route) : ∀ line ∈ services route, '\n' ∉ line.toList := by
  have hkey := single_fileKey h
  have hurl := h.serviceUrl
  unfold services
  split
  · simp [serviceName, hkey, hurl]
  · simp [serviceName, hkey, hurl]

theorem single_customLines (h : Writable route) :
    ∀ line ∈ customLines route, '\n' ∉ line.toList := by
  unfold customLines
  split
  · simp only [List.forall_mem_append]
    exact ⟨⟨single_customHttpRouter h, single_customHttpsRouter h⟩, single_middlewares h⟩
  · simp

/-- The routers that are expected of the proxy for a route are those its file declares. -/
theorem declared_routers_are_counted (h : Writable route) :
    countDeclaredTraefikRouters (buildTraefikRouteConfig route) =
      (if 0 < (providedHostnames route).length then 1 else 0) +
        if 0 < (customHostnames route).length then 2 else 0 := by
  have hsingle : ∀ line ∈ ["http:", "  routers:"] ++ providedRouter route ++ customLines route ++
      services route, '\n' ∉ line.toList := by
    simp only [List.forall_mem_append]
    exact ⟨⟨⟨by simp, single_providedRouter h⟩, single_customLines h⟩, single_services h⟩
  have hstart : readLines (false, 0) ["http:", "  routers:"] = (true, 0) := by decide
  have hend : ∀ s, readLine s [] = s := by
    intro s
    simp [readLine, opensRouters, closesRouters, declaresRouter]
  rw [count_eq, buildTraefikRouteConfig, lines_serializeYaml (by simp) hsingle, List.foldl_append]
  show (readLine (readLines _ _) []).2 = _
  rw [hend, readLines_append, readLines_append, readLines_append, hstart, readLines_providedRouter h,
    readLines_services]
  dsimp only
  rw [readLines_customLines h, Nat.zero_add]

def sampleRoute : TraefikRouteConfig where
  fileKey := "shop"
  providedHostnames := some ["shop.nouva.test"]
  customHostnames := some ["shop.test", "www.shop.test"]
  serviceUrl := "http://nouva-app-shop:3000"
  replacePath := some "/health"

theorem declared_routers_are_counted_sample :
    countDeclaredTraefikRouters (buildTraefikRouteConfig sampleRoute) = 1 + 2 := by
  apply @declared_routers_are_counted sampleRoute
  constructor
  · simp [sampleRoute, isWhiteSpace]
  · simp [sampleRoute, providedHostnames]
  · simp [sampleRoute, customHostnames]
  · simp [sampleRoute]
  · simp [sampleRoute]

end TraefikRoutes

end NouvaAgent
