import NouvaAgent.LogRedaction
import NouvaAgent.Paths.Posix

namespace NouvaAgent.AppBuild

open Paths LogRedaction

def path : Alphabet UInt16 := ⟨47, 46⟩

inductive AppBuildType
  | railpack
  | dockerfile
  | static
  deriving DecidableEq, Repr

structure AppBuildConfig where
  buildRoot : Option Units := none
  dockerfilePath : Option Units := none
  dockerContextPath : Option Units := none
  dockerBuildStage : Option Units := none
  publishDirectory : Option Units := none
  spaFallback : Option Bool := none

inductive ResolvedAppBuildSettings
  | railpack (buildRoot : Units)
  | dockerfile (buildRoot dockerfilePath dockerContextPath : Units)
      (dockerBuildStage : Option Units)
  | static (buildRoot publishDirectory : Units) (spaFallback : Bool)
  deriving DecidableEq, Repr

def defaultAppBuildRoot : Units := units "."

def defaultDockerfilePath : Units := units "Dockerfile"

def defaultDockerContextPath : Units := units "."

def defaultStaticPublishDirectory : Units := units "dist"

/-- `value.replace(/^\.\/+/, "")`. -/
def dropHere : Units → Units
  | 46 :: 47 :: rest => rest.dropWhile (· = 47)
  | value => value

/-- `value.replace(/^\/+|\/+$/g, "")`. -/
def dropSlashes (value : Units) : Units :=
  ((value.dropWhile (· = 47)).reverse.dropWhile (· = 47)).reverse

def normalizeRepoRelativePath (value : Option Units) (fallback : Units) : Units :=
  let trimmed := trim (value.getD [])
  if trimmed = [] ∨ trimmed = units "/" ∨ trimmed = units "./" ∨ trimmed = units "." then fallback
  else
    let normalized := dropSlashes (dropHere trimmed)
    if 0 < normalized.length then normalized else fallback

/-- `value?.trim() || null`. -/
def trimmedOrNull (value : Option Units) : Option Units := (value.map trim).filter (· ≠ [])

def normalizeAppBuildSettings (appBuildType : Option AppBuildType)
    (appBuildConfig : Option AppBuildConfig) : ResolvedAppBuildSettings :=
  let config := appBuildConfig.getD {}
  let buildRoot := normalizeRepoRelativePath config.buildRoot defaultAppBuildRoot
  match appBuildType.getD .railpack with
  | .dockerfile => .dockerfile buildRoot
      (normalizeRepoRelativePath config.dockerfilePath defaultDockerfilePath)
      (normalizeRepoRelativePath config.dockerContextPath defaultDockerContextPath)
      (trimmedOrNull config.dockerBuildStage)
  | .static => .static buildRoot
      (normalizeRepoRelativePath config.publishDirectory defaultStaticPublishDirectory)
      (config.spaFallback.getD false)
  | .railpack => .railpack buildRoot

def resolveBuildRootDirectory (repoDir buildRoot : Units) : Units :=
  if buildRoot = units "." then repoDir else path.join [repoDir, buildRoot]

def resolvePathWithinBuildRoot (buildRootDir relativePath : Units) : Units :=
  if relativePath = units "." then buildRootDir else path.join [buildRootDir, relativePath]

inductive BuildToolRun
  | railpackPrepare (cwd directory : Units)
  | railpackBuildctl (cwd context : Units)
  | dockerfileBuildctl (cwd context dockerfileDir dockerfileName : Units)
      (targetStage : Option Units)
  deriving DecidableEq, Repr

def BuildToolRun.paths : BuildToolRun → List Units
  | railpackPrepare cwd directory => [cwd, directory]
  | railpackBuildctl cwd context => [cwd, context]
  | dockerfileBuildctl cwd context dockerfileDir dockerfileName _ =>
      [cwd, context, dockerfileDir, path.join [dockerfileDir, dockerfileName]]

def runRailpackBuild (buildRootDir : Units) : List BuildToolRun :=
  [.railpackPrepare buildRootDir buildRootDir, .railpackBuildctl buildRootDir buildRootDir]

def buildDockerfileApplication (buildRootDir dockerfilePath dockerContextPath : Units)
    (dockerBuildStage : Option Units) : List BuildToolRun :=
  let dockerfileAbsolutePath := resolvePathWithinBuildRoot buildRootDir dockerfilePath
  let contextDir := resolvePathWithinBuildRoot buildRootDir dockerContextPath
  [.dockerfileBuildctl contextDir contextDir (path.dirname dockerfileAbsolutePath)
    (path.basename dockerfileAbsolutePath) dockerBuildStage]

def repoDir (tempRoot : Units) : Units := path.join [tempRoot, units "repo"]

/-- The runs of the tools over the checkout. A static app is then put into its image by a build in a
directory of the agent's own, which no part of the configuration leads to. -/
def buildApp (tempRoot : Units) (settings : ResolvedAppBuildSettings) : List BuildToolRun :=
  match settings with
  | .dockerfile buildRoot dockerfilePath dockerContextPath dockerBuildStage =>
      buildDockerfileApplication (resolveBuildRootDirectory (repoDir tempRoot) buildRoot)
        dockerfilePath dockerContextPath dockerBuildStage
  | .static buildRoot _ _ =>
      runRailpackBuild (resolveBuildRootDirectory (repoDir tempRoot) buildRoot)
  | .railpack buildRoot =>
      runRailpackBuild (resolveBuildRootDirectory (repoDir tempRoot) buildRoot)

example : normalizeRepoRelativePath (some (units " .//apps/web/ ")) (units ".") =
    units "apps/web" := by decide +kernel

/-- Where the configuration leads from the checkout. The Dockerfile is followed to its directory. -/
def StaysInside (checkout : List Units) : ResolvedAppBuildSettings → Prop
  | .dockerfile buildRoot dockerfilePath dockerContextPath _ =>
      path.Returns checkout (path.segments buildRoot ++ path.segments dockerContextPath) ∧
      path.Returns checkout
        (path.segments buildRoot ++ path.segments dockerfilePath ++ [path.up])
  | .static buildRoot _ _ | .railpack buildRoot =>
      path.Returns checkout (path.segments buildRoot)

structure Leads (directory : Units) (names : List Units) : Prop where
  isName : ∀ name ∈ names, path.IsName name
  rendered : ∃ trailing, directory = path.render names trailing

variable {tempRoot directory relative : Units} {names : List Units}

theorem Leads.absolute (h : Leads directory names) : path.isAbsolute directory = true := by
  obtain ⟨trailing, rfl⟩ := h.rendered
  exact Alphabet.isAbsolute_render _ _

theorem Leads.resolve (h : Leads directory names) : path.resolve directory = names := by
  obtain ⟨trailing, rfl⟩ := h.rendered
  exact Alphabet.resolve_render h.isName trailing

theorem leads_join (h : path.isAbsolute directory = true) :
    Leads (path.join [directory, relative])
      (path.follow (path.resolve directory) (path.segments relative)) :=
  ⟨Alphabet.follow_isName (Alphabet.resolve_isName _) (Alphabet.segments_noSeparator _),
    Alphabet.join_eq_render h⟩

theorem Leads.within (h : Leads directory names) :
    Leads (resolvePathWithinBuildRoot directory relative)
      (path.follow names (path.segments relative)) := by
  unfold resolvePathWithinBuildRoot
  split
  case isTrue hhere =>
    have hstays : path.follow names (path.segments relative) = names := by
      rw [hhere]
      have hsegments : path.segments (units ".") = [path.here] := by decide +kernel
      rw [hsegments]
      simp [Alphabet.follow, Alphabet.climb]
    rw [hstays]
    exact h
  case isFalse =>
    have hjoin : Leads (path.join [directory, relative])
        (path.follow (path.resolve directory) (path.segments relative)) := leads_join h.absolute
    rwa [h.resolve] at hjoin

theorem Leads.inside_iff {checkout : Units} (h : Leads directory names) :
    path.Inside checkout directory ↔ path.resolve checkout <+: names := by
  unfold Alphabet.Inside
  rw [h.resolve, and_iff_right h.absolute]

theorem Leads.dirname (h : Leads directory names) : Leads (path.dirname directory) names.dropLast := by
  obtain ⟨trailing, rfl⟩ := h.rendered
  exact ⟨fun name hname => h.isName name (List.mem_of_mem_dropLast hname), false,
    Alphabet.dirname_render h.isName trailing⟩

theorem Leads.file (h : Leads directory names) :
    Leads (path.join [path.dirname directory, path.basename directory]) names := by
  obtain ⟨trailing, hrendered⟩ := h.rendered
  exact ⟨h.isName, Alphabet.resolve_join_basename h.isName hrendered⟩

theorem follow_up (segments : List Units) : path.follow names (segments ++ [path.up]) =
    (path.follow names segments).dropLast := by
  rw [Alphabet.follow_append]
  rfl

theorem leads_repoDir (htemp : path.isAbsolute tempRoot = true) :
    Leads (repoDir tempRoot) (path.resolve (repoDir tempRoot)) := by
  have hjoin : Leads (repoDir tempRoot) _ := leads_join htemp
  rwa [← hjoin.resolve] at hjoin

theorem leads_buildRoot (htemp : path.isAbsolute tempRoot = true) (buildRoot : Units) :
    Leads (resolveBuildRootDirectory (repoDir tempRoot) buildRoot)
      (path.follow (path.resolve (repoDir tempRoot)) (path.segments buildRoot)) :=
  (leads_repoDir htemp).within

theorem runRailpackBuild_inside_iff {checkout : Units} (h : Leads directory names) :
    (∀ run ∈ runRailpackBuild directory, ∀ p ∈ run.paths, path.Inside checkout p) ↔
      path.resolve checkout <+: names := by
  simp [runRailpackBuild, BuildToolRun.paths, h.inside_iff]

theorem buildDockerfileApplication_inside_iff {checkout dockerfilePath dockerContextPath : Units}
    {stage : Option Units} (h : Leads directory names) :
    (∀ run ∈ buildDockerfileApplication directory dockerfilePath dockerContextPath stage,
      ∀ p ∈ run.paths, path.Inside checkout p) ↔
    path.resolve checkout <+: path.follow names (path.segments dockerContextPath) ∧
      path.resolve checkout <+:
        (path.follow names (path.segments dockerfilePath)).dropLast := by
  have hcontext : Leads (resolvePathWithinBuildRoot directory dockerContextPath) _ := h.within
  have hdockerfile : Leads (resolvePathWithinBuildRoot directory dockerfilePath) _ := h.within
  simp only [buildDockerfileApplication, BuildToolRun.paths, List.forall_mem_singleton,
    List.forall_mem_cons, hcontext.inside_iff, hdockerfile.dirname.inside_iff,
    hdockerfile.file.inside_iff]
  constructor
  · exact fun hinside => ⟨hinside.1, hinside.2.2.1⟩
  · intro hinside
    exact ⟨hinside.1, hinside.1, hinside.2, hinside.2.trans (List.dropLast_prefix _)⟩

/-- What the tools are given lies in the checkout exactly when the configuration goes back down, by
name, into whatever it climbs out of. -/
theorem buildApp_inside_iff (appBuildType : Option AppBuildType)
    (appBuildConfig : Option AppBuildConfig) (htemp : path.isAbsolute tempRoot = true) :
    (∀ run ∈ buildApp tempRoot (normalizeAppBuildSettings appBuildType appBuildConfig),
      ∀ p ∈ run.paths, path.Inside (repoDir tempRoot) p) ↔
    StaysInside (path.resolve (repoDir tempRoot))
      (normalizeAppBuildSettings appBuildType appBuildConfig) := by
  cases normalizeAppBuildSettings appBuildType appBuildConfig with
  | railpack buildRoot =>
    exact (runRailpackBuild_inside_iff (leads_buildRoot htemp buildRoot)).trans
      (Alphabet.prefix_follow_iff _ _)
  | static buildRoot publishDirectory spaFallback =>
    exact (runRailpackBuild_inside_iff (leads_buildRoot htemp buildRoot)).trans
      (Alphabet.prefix_follow_iff _ _)
  | dockerfile buildRoot dockerfilePath dockerContextPath stage =>
    refine (buildDockerfileApplication_inside_iff (leads_buildRoot htemp buildRoot)).trans ?_
    rw [← Alphabet.follow_append, ← Alphabet.follow_append, ← follow_up,
      Alphabet.prefix_follow_iff, Alphabet.prefix_follow_iff]
    rfl

def sampleTempRoot : Units := units "/tmp/nouva-agent-d1-a1b2c3"

def sharedDockerfile : AppBuildConfig where
  buildRoot := some (units "services/web")
  dockerfilePath := some (units "../docker/Dockerfile")
  dockerContextPath := some (units "..")

theorem buildApp_inside_iff_shared :
    StaysInside (path.resolve (repoDir sampleTempRoot))
      (normalizeAppBuildSettings (some .dockerfile) (some sharedDockerfile)) ∧
    ∀ run ∈ buildApp sampleTempRoot
      (normalizeAppBuildSettings (some .dockerfile) (some sharedDockerfile)),
      ∀ p ∈ run.paths, path.Inside (repoDir sampleTempRoot) p := by
  have hstays : StaysInside (path.resolve (repoDir sampleTempRoot))
      (normalizeAppBuildSettings (some .dockerfile) (some sharedDockerfile)) := by
    constructor <;> (unfold Alphabet.Returns; decide +kernel)
  exact ⟨hstays, (buildApp_inside_iff (some .dockerfile) (some sharedDockerfile)
    (by decide +kernel)).mpr hstays⟩

/-- A build root of `../..` makes the directory above all checkouts the context of the build. -/
theorem buildApp_outside : ¬∀ run ∈ buildApp sampleTempRoot
    (normalizeAppBuildSettings none (some { buildRoot := some (units "../..") })),
    ∀ p ∈ run.paths, path.Inside (repoDir sampleTempRoot) p := by
  intro hinside
  have hcontext : path.Inside (repoDir sampleTempRoot) (units "/tmp") :=
    hinside (.railpackBuildctl (units "/tmp") (units "/tmp")) (by decide +kernel) _
      List.mem_cons_self
  exact absurd hcontext.2.length_le (by decide +kernel)

end NouvaAgent.AppBuild
