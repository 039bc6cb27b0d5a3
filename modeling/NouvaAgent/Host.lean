import Mathlib.Logic.Function.Basic
import NouvaAgent.Agent

namespace NouvaAgent

open Text Interaction

/-- A value in one of the agent's files; the agent looks no deeper than an object's properties. -/
inductive FileValue
  | null
  | bool (value : Bool)
  | number (value : ℚ)
  | text (value : String)
  | nested
  deriving DecidableEq, Repr

/-- A text file, by what `JSON.parse` makes of it: it throws, or reads a value. -/
inductive FileContents
  | broken (message : String)
  | value (value : FileValue)
  | object (entries : List (String × FileValue))
  deriving DecidableEq, Repr

structure FileError extends CallError where
  code : Option String
  deriving DecidableEq, Repr

inductive FileStep
  | mkdir (path : String)
  | writeFile (path : String) (contents : FileContents)
  | rename (source target : String)
  deriving DecidableEq, Repr

inductive HostCall
  | agent (c : AgentCall)
  | readFile (path : String)
  | file (step : FileStep)
  | removeVolume (name : String) (force : Bool)
  | listenOnPort (port : ℚ)
  | restartContainer (nameOrId : String)
  deriving DecidableEq, Repr

abbrev HostCall.Answer : HostCall → Type
  | agent c => c.Answer
  | readFile _ => Except FileError FileContents
  | file _ => Except FileError Unit
  | removeVolume _ _ | listenOnPort _ | restartContainer _ => Except CallError Unit

abbrev Files := String → Option FileContents

namespace FileStep

def Takes (step : FileStep) (files files' : Files) : Prop :=
  match step with
  | mkdir _ => files' = files
  | writeFile path contents => files' = Function.update files path (some contents)
  | rename source target => ∃ contents, files source = some contents ∧
      files' = Function.update (Function.update files source none) target (some contents)

/-- A write that fails may leave any part of a file behind. -/
def Fails (step : FileStep) (files files' : Files) : Prop :=
  match step with
  | writeFile path _ => ∃ left, files' = Function.update files path left
  | _ => files' = files

/-- A step whose answer is lost may have been taken. -/
def Effect (step : FileStep) (r : Option (Except FileError Unit)) (files files' : Files) : Prop :=
  match r with
  | some (.ok _) => step.Takes files files'
  | _ => step.Takes files files' ∨ step.Fails files files'

end FileStep

/-- A file is said to be missing only when it is, and read as it is. -/
def ReadEffect (path : String) (r : Option (Except FileError FileContents)) (files : Files) : Prop :=
  (∀ contents, r = some (.ok contents) → files path = some contents) ∧
    ∀ e, r = some (.error e) → e.code = some "ENOENT" → files path = none

abbrev HostMethod (σ α : Type) := Method HostCall.Answer Failure σ α

abbrev HostAction (α : Type) := Action HostCall.Answer Failure α

namespace Host

variable {W σ α : Type}

def ofProgram : Program AgentCall.Answer α → Program HostCall.Answer α
  | .ret a => .ret a
  | .cut => .cut
  | .call c next => .call (.agent c) fun r => ofProgram (next r)
  | .pick next => .pick fun n => ofProgram (next n)

def agent (p : AgentMethod σ α) : HostMethod σ α := fun s => ofProgram (p s)

def request (r : Request) : HostMethod σ r.Result := agent (Agent.request r)

def now : HostMethod σ ℤ := agent Agent.now

def onAgent (M : Model HostCall.Answer W) : Model AgentCall.Answer W := fun w c r w' =>
  M w (.agent c) r w'

theorem ofProgram_wp {M : Model HostCall.Answer W} (p : Program AgentCall.Answer α)
    (Q : Outcome α → W → Prop) (w : W) : (ofProgram p).wp M Q w ↔ p.wp (onAgent M) Q w := by
  induction p generalizing w with
  | ret a => rfl
  | cut => rfl
  | call c next ih =>
    simp only [ofProgram, Program.wp, ih]
    rfl
  | pick next ih => simp only [ofProgram, Program.wp, ih]

theorem wp_agent {M : Model HostCall.Answer W} (p : AgentMethod σ α) {Q : Post Failure σ α W}
    {s : σ} {w : W} : (agent p).wp M Q s w ↔ p.wp (onAgent M) Q s w :=
  ofProgram_wp (p s) Q.outcome w

theorem wp_request {M : Model HostCall.Answer W} (r : Request) {Q : Post Failure σ r.Result W}
    {s : σ} {w : W} : (request r).wp M Q s w ↔
      (∀ w', M w (.agent (.request r)) none w' → Q.cut w') ∧
      (∀ e w', M w (.agent (.request r)) (some (.error e)) w' → Q.err (.call e) s w') ∧
      ∀ a w', M w (.agent (.request r)) (some (.ok a)) w' → Q.ok a s w' :=
  (wp_agent _).trans (Agent.wp_request r)

theorem ofProgram_confined {S : HostCall → Prop} {R : α → Prop} (p : Program AgentCall.Answer α)
    (hp : p.Confined (fun c => S (.agent c)) R) : (ofProgram p).Confined S R := by
  induction p with
  | ret a => exact hp
  | cut => trivial
  | call c next ih => exact ⟨hp.1, fun r => ih r (hp.2 r)⟩
  | pick next ih => exact fun n => ih n (hp n)

theorem uses_agent {S : HostCall → Prop} {p : AgentMethod σ α}
    (hp : p.Uses fun c => S (.agent c)) : (agent p).Uses S :=
  fun s => ofProgram_confined (p s) (hp s)

theorem uses_request {S : HostCall → Prop} {r : Request} (h : S (.agent (.request r))) :
    (request r : HostMethod σ r.Result).Uses S := uses_agent (Agent.uses_request h)

theorem uses_now {S : HostCall → Prop} (h : S (.agent .now)) : (now : HostMethod σ ℤ).Uses S :=
  uses_agent (Agent.uses_now h)

theorem request_produces {r : Request} {s : σ} {seg : History HostCall.Answer}
    {x : Except Failure r.Result × σ}
    (h : ((request r : HostMethod σ r.Result) s).Produces seg x) : ∃ answer,
      seg = [⟨.agent (.request r), some answer⟩] ∧ x = (answer.mapError Failure.call, s) := by
  cases h with
  | call hn =>
    rename_i answer
    cases answer <;> cases hn <;> exact ⟨_, rfl, rfl⟩

def file (step : FileStep) : HostMethod σ Unit :=
  Method.bind (Method.ask (HostCall.file step)) fun
    | .ok _ => Method.pure ()
    | .error e => Method.throw (.call e.toCallError)

theorem wp_file {M : Model HostCall.Answer W} (step : FileStep) {Q : Post Failure σ Unit W}
    {s : σ} {w : W} : (file step).wp M Q s w ↔
      (∀ w', M w (.file step) none w' → Q.cut w') ∧
      (∀ e w', M w (.file step) (some (.error e)) w' → Q.err (.call e.toCallError) s w') ∧
      ∀ w', M w (.file step) (some (.ok ())) w' → Q.ok () s w' := by
  simp only [file, Method.wp_bind, Method.wp_ask]
  refine and_congr_right fun _ => ⟨fun h => ⟨fun e w' => h _ w', fun w' => h _ w'⟩, ?_⟩
  rintro h (e | a) w' hs
  · exact h.1 e w' hs
  · exact h.2 w' hs

end Host

def padDigits (width n : ℕ) : String :=
  let digits := Nat.toDigits 10 n
  String.ofList (List.replicate (width - digits.length) '0' ++ digits)

def toISOString (ms : ℤ) : String :=
  let days := ms / 86400000
  let time := (ms % 86400000).toNat
  let shifted := days + 719468
  let era := shifted / 146097
  let dayOfEra := (shifted % 146097).toNat
  let yearOfEra := (dayOfEra - dayOfEra / 1460 + dayOfEra / 36524 - dayOfEra / 146096) / 365
  let dayOfYear := dayOfEra - (365 * yearOfEra + yearOfEra / 4 - yearOfEra / 100)
  let month := (5 * dayOfYear + 2) / 153
  let day := dayOfYear - (153 * month + 2) / 5 + 1
  let year := yearOfEra + era * 400 + if month < 10 then 0 else 1
  let yearText :=
    if 0 ≤ year ∧ year ≤ 9999 then padDigits 4 year.toNat
    else (if year < 0 then "-" else "+") ++ padDigits 6 year.natAbs
  yearText ++ "-" ++ padDigits 2 (if month < 10 then month + 3 else month - 9) ++ "-" ++
    padDigits 2 day ++ "T" ++ padDigits 2 (time / 3600000) ++ ":" ++
    padDigits 2 (time / 60000 % 60) ++ ":" ++ padDigits 2 (time / 1000 % 60) ++ "." ++
    padDigits 3 (time % 1000) ++ "Z"

example : toISOString 1709210096789 = "2024-02-29T12:34:56.789Z" := by decide +kernel

def base64UrlDigit (n : ℕ) : Char :=
  if n < 26 then Char.ofNat ('A'.toNat + n)
  else if n < 52 then Char.ofNat ('a'.toNat + (n - 26))
  else if n < 62 then Char.ofNat ('0'.toNat + (n - 52))
  else if n = 62 then '-' else '_'

def base64UrlDigits : List ℕ → List Char
  | a :: b :: c :: rest =>
    [base64UrlDigit (a / 4), base64UrlDigit (a % 4 * 16 + b / 16),
      base64UrlDigit (b % 16 * 4 + c / 64), base64UrlDigit (c % 64)] ++ base64UrlDigits rest
  | [a, b] => [base64UrlDigit (a / 4), base64UrlDigit (a % 4 * 16 + b / 16),
      base64UrlDigit (b % 16 * 4)]
  | [a] => [base64UrlDigit (a / 4), base64UrlDigit (a % 4 * 16)]
  | [] => []

def utf8 (text : String) : List ℕ := (text.toList.flatMap String.utf8EncodeChar).map UInt8.toNat

def base64Url (text : String) : String := String.ofList (base64UrlDigits (utf8 text))

example : base64Url "run-ß" = "cnVuLcOf" := by decide +kernel

end NouvaAgent
