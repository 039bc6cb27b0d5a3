import Mathlib.Logic.Function.Basic
import NouvaAgent.Agent

namespace NouvaAgent

open Text Interaction

structure PortBinding where
  hostIp : String
  hostPort : String
  deriving DecidableEq, Repr

structure LogConfig where
  type : Option String
  maxSize : Option String
  maxFile : Option String
  deriving DecidableEq, Repr

structure RuntimeInspection where
  running : Option Bool
  image : Option String := none
  cmd : Option (List String) := none
  labels : Option TextRecord := none
  binds : Option (List String) := none
  memory : Option ℤ := none
  memorySwap : Option ℤ := none
  logConfig : Option LogConfig := none
  portBindings : List (String × List PortBinding) := []
  deriving DecidableEq, Repr

structure RuntimeContainerSpec where
  name : String
  image : String
  cmd : List String
  labels : TextRecord := []
  exposedPorts : List String := []
  binds : List String
  portBindings : List (String × List PortBinding) := []
  restartPolicy : Option String := none
  logConfig : Option LogConfig := none
  privileged : Bool := false
  memory : Option ℤ := none
  memorySwap : Option ℤ := none
  networkMode : Option String := none
  network : Option String := none
  deriving DecidableEq, Repr

structure RuntimeNetwork where
  name : String
  labels : Option TextRecord
  deriving DecidableEq, Repr

structure DirectoryEntry where
  name : String
  isFile : Bool
  deriving DecidableEq, Repr

structure TraefikRouter where
  name : Option String
  provider : Option String
  rule : Option String
  deriving DecidableEq, Repr

structure FetchResponse where
  ok : Bool
  status : ℤ
  routers : Except CallError (List TraefikRouter) := .ok []
  deriving DecidableEq

inductive FileChange
  | mkdir (path : String)
  | writeFile (path contents : String)
  | rename (source target : String)
  | chmod (path : String) (mode : ℕ)
  | rm (path : String) (recursive : Bool)
  deriving DecidableEq, Repr

inductive RuntimeRequest
  | change (change : FileChange)
  | readFile (path : String)
  | readDirectory (path : String)
  | access (path : String)
  | stat (path : String)
  | ensureNetwork (name : String)
  | inspectContainer (name : String)
  | inspectImage (image : String)
  | pullImage (image : String)
  | removeContainer (name : String) (force : Bool)
  | ensureContainer (spec : RuntimeContainerSpec) (replace pull : Bool)
  | createContainer (spec : RuntimeContainerSpec)
  | startContainer (id : String)
  | waitContainer (id : String) (timeoutMs : ℕ)
  | containerLogs (id : String)
  | listNetworks
  | connectNetwork (network container : String)
  | inspectNetwork (name : String)
  | fetch (method url : String)
  deriving DecidableEq, Repr

abbrev RuntimeRequest.Result : RuntimeRequest → Type
  | readFile _ | ensureContainer _ _ _ | createContainer _ | containerLogs _ => String
  | readDirectory _ => List DirectoryEntry
  | stat _ => ℕ
  | inspectContainer _ => Option RuntimeInspection
  | inspectImage _ | inspectNetwork _ => Bool
  | waitContainer _ _ => ℤ
  | listNetworks => List RuntimeNetwork
  | fetch _ _ => FetchResponse
  | change _ | access _ | ensureNetwork _ | pullImage _ | removeContainer _ _ | startContainer _
  | connectNetwork _ _ => Unit

inductive RuntimeCall
  | request (r : RuntimeRequest)
  | now
  | sleep (ms : ℤ)
  deriving DecidableEq, Repr

abbrev RuntimeCall.Answer : RuntimeCall → Type
  | request r => Except CallError r.Result
  | now => ℤ
  | sleep _ => Unit

instance (r : RuntimeRequest) : DecidableEq r.Result :=
  match r with
  | .readFile _ | .ensureContainer _ _ _ | .createContainer _ | .containerLogs _ =>
    inferInstanceAs (DecidableEq String)
  | .readDirectory _ => inferInstanceAs (DecidableEq (List DirectoryEntry))
  | .stat _ => inferInstanceAs (DecidableEq ℕ)
  | .inspectContainer _ => inferInstanceAs (DecidableEq (Option RuntimeInspection))
  | .inspectImage _ | .inspectNetwork _ => inferInstanceAs (DecidableEq Bool)
  | .waitContainer _ _ => inferInstanceAs (DecidableEq ℤ)
  | .listNetworks => inferInstanceAs (DecidableEq (List RuntimeNetwork))
  | .fetch _ _ => inferInstanceAs (DecidableEq FetchResponse)
  | .change _ | .access _ | .ensureNetwork _ | .pullImage _ | .removeContainer _ _
  | .startContainer _ | .connectNetwork _ _ => inferInstanceAs (DecidableEq Unit)

instance (c : RuntimeCall) : DecidableEq c.Answer :=
  match c with
  | .request r => inferInstanceAs (DecidableEq (Except CallError r.Result))
  | .now => inferInstanceAs (DecidableEq ℤ)
  | .sleep _ => inferInstanceAs (DecidableEq Unit)

abbrev RuntimeEvent := Event RuntimeCall.Answer

abbrev RuntimeHistory := History RuntimeCall.Answer

abbrev RuntimeMethod (σ α : Type) := Method RuntimeCall.Answer Failure σ α

abbrev RuntimeAction (α : Type) := Action RuntimeCall.Answer Failure α

namespace ManagedRuntime

variable {W σ : Type}

def request (r : RuntimeRequest) : RuntimeMethod σ r.Result :=
  Method.bind (Method.ask (RuntimeCall.request r)) fun
    | .ok a => Method.pure a
    | .error e => Method.throw (.call e)

def now : RuntimeMethod σ ℤ := Method.ask RuntimeCall.now

def sleep (ms : ℤ) : RuntimeMethod σ Unit := Method.ask (RuntimeCall.sleep ms)

theorem wp_request (r : RuntimeRequest) {M : Model RuntimeCall.Answer W}
    {Q : Post Failure σ r.Result W} {s : σ} {w : W} : (request r).wp M Q s w ↔
      (∀ w', M w (.request r) none w' → Q.cut w') ∧
      (∀ e w', M w (.request r) (some (.error e)) w' → Q.err (.call e) s w') ∧
      ∀ a w', M w (.request r) (some (.ok a)) w' → Q.ok a s w' := by
  simp only [request, Method.wp_bind, Method.wp_ask]
  refine and_congr_right fun _ => ⟨fun h => ⟨fun e w' => h _ w', fun a w' => h _ w'⟩, ?_⟩
  rintro h (e | a) w' hs
  · exact h.1 e w' hs
  · exact h.2 a w' hs

theorem exec_request {M : Model RuntimeCall.Answer W} {r : RuntimeRequest} {a : r.Result} {s : σ}
    {w w' : W} (hm : M w (.request r) (some (.ok a)) w') :
    Program.Exec M (request r s) w (.done (.ok a, s)) w' :=
  Method.exec_bind (.call hm (.ret _ _)) (.ret _ _)

theorem exec_lost {M : Model RuntimeCall.Answer W} {r : RuntimeRequest} {s : σ} {w w' : W}
    (hm : M w (.request r) none w') : Program.Exec M (request r s) w .cut w' :=
  Method.exec_bind_cut _ (.lost hm)

variable {S : RuntimeCall → Prop}

theorem uses_request {r : RuntimeRequest} (h : S (.request r)) :
    (request r : RuntimeMethod σ r.Result).Uses S :=
  Method.uses_bind (Method.uses_ask h) fun
    | .ok a => Method.uses_pure a
    | .error _ => Method.uses_throw _

theorem uses_now (h : S .now) : (now : RuntimeMethod σ ℤ).Uses S := Method.uses_ask h

theorem uses_sleep {ms : ℤ} (h : S (.sleep ms)) : (sleep ms : RuntimeMethod σ Unit).Uses S :=
  Method.uses_ask h

def managedContainerLogConfig : LogConfig := ⟨some "json-file", some "10m", some "3"⟩

def isRunning (inspection : Option RuntimeInspection) : Bool :=
  (inspection.bind RuntimeInspection.running).getD false

def label (inspection : Option RuntimeInspection) (key : String) : Option String :=
  (inspection.bind RuntimeInspection.labels).bind (·.lookup key)

def hasPortBinding (inspection : Option RuntimeInspection) (containerPort : String)
    (expected : PortBinding) : Bool :=
  match inspection.bind (·.portBindings.lookup containerPort) with
  | none => false
  | some bindings => bindings.any fun binding =>
      binding.hostPort == expected.hostPort &&
        (binding.hostIp == expected.hostIp ||
          (expected.hostIp == "0.0.0.0" && (binding.hostIp == "0.0.0.0" || binding.hostIp == "")))

def dirname (path : String) : String :=
  String.ofList ((path.toList.reverse.dropWhile (· ≠ '/')).drop 1).reverse

def temporary (path : String) : String := path ++ ".tmp"

def writeManagedFile (path contents : String) (mode : Option ℕ := none) : RuntimeMethod σ Unit := do
  request (.change (.mkdir (dirname path)))
  request (.change (.writeFile (temporary path) contents))
  match mode with
  | none => request (.change (.rename (temporary path) path))
  | some mode => do
    request (.change (.chmod (temporary path) mode))
    request (.change (.rename (temporary path) path))
    request (.change (.chmod path mode))

def readManagedFile (path : String) : RuntimeMethod σ (Option String) := do
  match ← Method.settle (request (.readFile path)) with
  | .ok contents => pure (some contents)
  | .error _ => pure none

theorem exec_readManagedFile {M : Model RuntimeCall.Answer W} {path contents : String} {s : σ} {w w' : W}
    (hm : M w (.request (.readFile path)) (some (.ok contents)) w') :
    Program.Exec M (readManagedFile path s) w (.done (.ok (some contents), s)) w' := by
  exact Method.exec_bind (Method.exec_settle (exec_request hm)) (.ret _ _)

theorem exec_readManagedFile_none {M : Model RuntimeCall.Answer W} {path : String} {e : CallError}
    {s : σ} {w w' : W} (hm : M w (.request (.readFile path)) (some (.error e)) w') :
    Program.Exec M (readManagedFile path s) w (.done (.ok none, s)) w' := by
  have hread : Program.Exec M ((request (.readFile path) : RuntimeMethod σ _) s) w
      (.done (.error (.call e), s)) w' := Program.Exec.bind (.call hm (.ret _ _)) (.ret _ _)
  exact Method.exec_bind (Method.exec_settle hread) (.ret _ _)

end ManagedRuntime

end NouvaAgent
