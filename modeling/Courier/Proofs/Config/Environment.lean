import Courier.Config.Environment
import Courier.Proofs.Config.Basic
import Courier.Proofs.Scheduler.Invariant
import Courier.Proofs.Text.Numeral
import Courier.Text.Utf8
/-!
Settings from the environment.

Each variable has a setting of its own.  Main statement: settings that load hold what the variables
say and the defaults where they say nothing, a variable has no influence on the settings of the others,
and the problem is the one of the first variable that cannot be read, and only after that the first
setting out of its range.
-/
namespace Courier

/-- The environment in which the variables are set to some bytes.  Bytes that are no text count as
nothing. -/
def Environment.ofBytes (values : String → Option (List Nat)) : Environment :=
  fun name => (values name).bind fun bytes => (Text.decodeUtf8 bytes).toOption

namespace Environment

variable {values : String → Option (List Nat)} {name : String}

theorem ofBytes_eq_some_iff {text : String} : ofBytes values name = some text ↔
    ∃ bytes, values name = some bytes ∧ Text.decodeUtf8 bytes = .ok text := by
  rw [ofBytes, Option.bind_eq_some_iff]
  refine exists_congr fun bytes => and_congr_right fun _ => ?_
  cases Text.decodeUtf8 bytes <;> simp [Except.toOption]

theorem ofBytes_eq_none_iff : ofBytes values name = none ↔
    values name = none ∨
      ∃ bytes error, values name = some bytes ∧ Text.decodeUtf8 bytes = .error error := by
  rw [ofBytes]
  cases values name with
  | none => simp
  | some bytes => cases hdecode : Text.decodeUtf8 bytes <;> simp [Except.toOption, hdecode]

end Environment

namespace Config

/-- The variables that hold settings. -/
inductive Variable where
  | apiKey
  | baseUrl
  | flushInterval
  | maxQueueSize
  | batchSize
  | maxRetries
  | defaultEventType
  | logLevel
  | logFormat
  deriving DecidableEq, Repr

namespace Variable

def name : Variable → String
  | .apiKey => "MARGINDASH_API_KEY"
  | .baseUrl => "MARGINDASH_BASE_URL"
  | .flushInterval => "MARGINDASH_FLUSH_INTERVAL_MS"
  | .maxQueueSize => "MARGINDASH_MAX_QUEUE_SIZE"
  | .batchSize => "MARGINDASH_BATCH_SIZE"
  | .maxRetries => "MARGINDASH_MAX_RETRIES"
  | .defaultEventType => "MARGINDASH_DEFAULT_EVENT_TYPE"
  | .logLevel => "MARGINDASH_LOG_LEVEL"
  | .logFormat => "MARGINDASH_LOG_FORMAT"

/-- The order in which the variables are read. -/
def inOrder : List Variable :=
  [.apiKey, .baseUrl, .flushInterval, .maxQueueSize, .batchSize, .maxRetries, .defaultEventType,
    .logLevel, .logFormat]

/-- The greatest number that a variable may hold, if it holds a number. -/
def bound? : Variable → Option Nat
  | .flushInterval | .maxQueueSize | .batchSize => some maxWord
  | .maxRetries => some maxHalfWord
  | _ => none

/-- What is wrong with the text of a variable. -/
def fault? (v : Variable) (text : String) : Option ConfigProblem :=
  match v.bound? with
  | some bound =>
    match Text.readNat bound text with
    | .ok _ => none
    | .error error => some (.unreadableNumber v.name error)
  | none =>
    let lower := Text.toLower text
    if v = .logFormat ∧ lower ∉ [LogFormat.json.name, LogFormat.pretty.name] then
      some (.unknownLogFormat lower)
    else none

/-- Two settings agree on what the variable is for. -/
def Same (c d : Config) : Variable → Prop
  | .apiKey => c.apiKey = d.apiKey
  | .baseUrl => c.baseUrl = d.baseUrl
  | .flushInterval => c.flushInterval = d.flushInterval
  | .maxQueueSize => c.maxQueueSize = d.maxQueueSize
  | .batchSize => c.batchSize = d.batchSize
  | .maxRetries => c.maxRetries = d.maxRetries
  | .defaultEventType => c.defaultEventType = d.defaultEventType
  | .logLevel => c.logLevel = d.logLevel
  | .logFormat => c.logFormat = d.logFormat

/-- The setting of the variable is what its text stands for. -/
def Holds (c : Config) (text : String) : Variable → Prop
  | .apiKey => c.apiKey = if text = "" then none else some text
  | .baseUrl => c.baseUrl.toList.getLast? ≠ some '/' ∧
      ∃ count, text.toList = c.baseUrl.toList ++ List.replicate count '/'
  | .flushInterval =>
      ∃ millis, Text.Stands text.toList millis ∧ millis ≤ maxWord ∧
        c.flushInterval.nanos = millis * Duration.milli
  | .maxQueueSize => Text.Stands text.toList c.maxQueueSize ∧ c.maxQueueSize ≤ maxWord
  | .batchSize => Text.Stands text.toList c.batchSize ∧ c.batchSize ≤ maxWord
  | .maxRetries => Text.Stands text.toList c.maxRetries ∧ c.maxRetries ≤ maxHalfWord
  | .defaultEventType => c.defaultEventType = text
  | .logLevel => c.logLevel = text
  | .logFormat => Text.toLower text = c.logFormat.name

end Variable

/-- The problem of the first variable that cannot be read. -/
def firstFault? (env : Environment) : Option ConfigProblem :=
  Variable.inOrder.findSome? fun v => (env v.name).bind v.fault?

/-- The settings hold what the variables say, and the defaults where they say nothing. -/
structure Given (env : Environment) (c : Config) : Prop where
  unset : ∀ v : Variable, env v.name = none → v.Same c {}
  holds : ∀ (v : Variable) text, env v.name = some text → v.Holds c text
  backoff : c.backoffBase = ({} : Config).backoffBase ∧
    c.backoffMax = ({} : Config).backoffMax ∧ c.jitter = ({} : Config).jitter

namespace Variable

variable {c d : Config} {env : Environment} {text : String}

theorem mem_inOrder (v : Variable) : v ∈ inOrder := by
  cases v <;> decide

theorem Same.symm {v : Variable} (h : v.Same c d) : v.Same d c := by
  cases v <;> exact Eq.symm h

theorem Same.trans {e : Config} {v : Variable} (h : v.Same c d) (h' : v.Same d e) :
    v.Same c e := by
  cases v <;> exact Eq.trans h h'

/-- A text leaves no choice of the setting. -/
theorem Holds.same {v : Variable} (hc : v.Holds c text) (hd : v.Holds d text) : v.Same c d := by
  cases v with
  | apiKey => exact Eq.trans hc (Eq.symm hd)
  | baseUrl => exact (trimSlashes_eq_iff.mpr hc).symm.trans (trimSlashes_eq_iff.mpr hd)
  | flushInterval =>
      obtain ⟨m, hm, -, hc⟩ := hc
      obtain ⟨n, hn, -, hd⟩ := hd
      obtain rfl := hm.unique hn
      exact Duration.ext_nanos (hc.trans hd.symm)
  | maxQueueSize => exact hc.1.unique hd.1
  | batchSize => exact hc.1.unique hd.1
  | maxRetries => exact hc.1.unique hd.1
  | defaultEventType => exact Eq.trans hc (Eq.symm hd)
  | logLevel => exact Eq.trans hc (Eq.symm hd)
  | logFormat =>
      have hname : c.logFormat.name = d.logFormat.name := Eq.trans (Eq.symm hc) hd
      show c.logFormat = d.logFormat
      revert hname
      cases c.logFormat <;> cases d.logFormat <;> decide

end Variable

/-- Settings that agree on every variable and on the pauses are the same. -/
theorem ext_same {c d : Config} (hsame : ∀ v : Variable, v.Same c d)
    (hbase : c.backoffBase = d.backoffBase) (hmax : c.backoffMax = d.backoffMax)
    (hjitter : c.jitter = d.jitter) : c = d := by
  have h := hsame
  cases c
  cases d
  simp only [mk.injEq]
  exact ⟨h .apiKey, h .baseUrl, h .flushInterval, h .maxQueueSize, h .batchSize, h .maxRetries,
    hbase, hmax, hjitter, h .defaultEventType, h .logLevel, h .logFormat⟩

namespace Given

variable {c d : Config} {env env' : Environment}

theorem same (hc : c.Given env) (hd : d.Given env') {v : Variable}
    (hv : env v.name = env' v.name) : v.Same c d := by
  cases htext : env v.name with
  | none => exact (hc.unset v htext).trans (hd.unset v (hv ▸ htext)).symm
  | some text => exact (hc.holds v text htext).same (hd.holds v text (hv ▸ htext))

theorem unique (hc : c.Given env) (hd : d.Given env) : c = d := by
  obtain ⟨hbase, hmax, hjitter⟩ := hc.backoff
  obtain ⟨hbase', hmax', hjitter'⟩ := hd.backoff
  exact ext_same (fun _ => hc.same hd rfl) (hbase.trans hbase'.symm) (hmax.trans hmax'.symm)
    (hjitter.trans hjitter'.symm)

/-- There is no slash at the end of the address. -/
theorem address (hc : c.Given env) : c.baseUrl.toList.getLast? ≠ some '/' := by
  cases htext : env Variable.baseUrl.name with
  | none =>
      have hdefault : c.baseUrl = ({} : Config).baseUrl := hc.unset .baseUrl htext
      rw [hdefault]
      decide
  | some text => exact (hc.holds .baseUrl text htext).1

end Given

/-- A reader comes to something with a property, or it breaks off with the fault. -/
def Reads {α : Type} (fault : Option ConfigProblem) (P : α → Prop) :
    Except ConfigProblem α → Prop
  | .ok read => fault = none ∧ P read
  | .error problem => fault = some problem

/-- Of two readers in a row the first one that breaks off decides. -/
theorem Reads.bind {α β : Type} {first second : Option ConfigProblem} {P : α → Prop} {Q : β → Prop}
    {result : Except ConfigProblem α} {next : α → Except ConfigProblem β}
    (h : Reads first P result) (hnext : ∀ read, P read → Reads second Q (next read)) :
    Reads (first.or second) Q (result >>= next) := by
  cases result with
  | ok read =>
      obtain ⟨rfl, hread⟩ := h
      exact hnext read hread
  | error problem =>
      obtain rfl := h
      exact rfl

section Reading

variable (env : Environment) (v : Variable)

def faultOf : Option ConfigProblem := (env v.name).bind v.fault?

/-- The value is the default, or what the text of the variable means. -/
structure Said {α : Type} (default : α) (Means : String → α → Prop) (value : α) : Prop where
  unset : env v.name = none → value = default
  set : ∀ text, env v.name = some text → Means text value

section Said

variable {env v} {α : Type} {default value : α} {Means : String → α → Prop} {text : String}

theorem said_of_unset (h : env v.name = none) : Said env v default Means default := by
  refine ⟨fun _ => rfl, ?_⟩
  intro text hset
  cases h.symm.trans hset

theorem said_of_set (h : env v.name = some text) (hmeans : Means text value) :
    Said env v default Means value := by
  constructor
  · intro hunset
    cases h.symm.trans hunset
  · intro other hother
    obtain rfl := Option.some.inj (h.symm.trans hother)
    exact hmeans

end Said

/-- The text stands for the number, which does not pass the bound. -/
def Numbers (bound : Nat) (text : String) (n : Nat) : Prop :=
  Text.Stands text.toList n ∧ n ≤ bound

/-- The text names the log format, in whatever case. -/
def Names (text : String) (format : LogFormat) : Prop := Text.toLower text = format.name

theorem reads_number {bound : Nat} (hbound : v.bound? = some bound) (default : Nat) :
    Reads (faultOf env v) (Said env v default (Numbers bound))
      (readNumber env v.name bound default) := by
  rw [readNumber, faultOf]
  cases htext : env v.name with
  | none => exact ⟨rfl, said_of_unset htext⟩
  | some text =>
      cases hread : Text.readNat bound text with
      | error error => simp [Reads, Variable.fault?, hbound, hread]
      | ok n =>
          have hfault : (some text).bind v.fault? = none := by
            simp [Variable.fault?, hbound, hread]
          simp only [hread]
          exact ⟨hfault, said_of_set htext (Text.readNat_eq_ok_iff.mp hread)⟩

theorem faultOf_text (hbound : v.bound? = none) (hformat : v ≠ .logFormat) :
    faultOf env v = none := by
  rw [faultOf]
  cases env v.name with
  | none => rfl
  | some text => simp [Variable.fault?, hbound, hformat]

def readFormat : Except ConfigProblem LogFormat :=
  match env Variable.logFormat.name with
  | none => .ok ({} : Config).logFormat
  | some text => readLogFormat text

theorem reads_format : Reads (faultOf env .logFormat)
    (Said env .logFormat ({} : Config).logFormat Names) (readFormat env) := by
  rw [readFormat, faultOf]
  cases htext : env Variable.logFormat.name with
  | none => exact ⟨rfl, said_of_unset htext⟩
  | some text =>
      have hread : readLogFormat text =
          if Text.toLower text = "json" then .ok .json
          else if Text.toLower text = "pretty" then .ok .pretty
          else .error (.unknownLogFormat (Text.toLower text)) := rfl
      have hfault : (some text).bind Variable.logFormat.fault? =
          if Text.toLower text ∉ ["json", "pretty"] then
            some (.unknownLogFormat (Text.toLower text))
          else none := by
        simp [Variable.fault?, Variable.bound?, LogFormat.name]
      dsimp only
      rw [hread, hfault]
      by_cases hjson : Text.toLower text = "json"
      · rw [if_pos hjson]
        exact ⟨if_neg (by simp [hjson]), said_of_set htext hjson⟩
      · rw [if_neg hjson]
        by_cases hpretty : Text.toLower text = "pretty"
        · rw [if_pos hpretty]
          exact ⟨if_neg (by simp [hpretty]), said_of_set htext hpretty⟩
        · rw [if_neg hpretty]
          exact if_pos (by simp [hjson, hpretty])

/-- The settings that the variables give, once the numbers and the log format are read. -/
def gather (interval queue batch retries : Nat) (format : LogFormat) : Config where
  apiKey := (env Variable.apiKey.name).filter (· ≠ "")
  baseUrl := ((env Variable.baseUrl.name).map trimSlashes).getD ({} : Config).baseUrl
  flushInterval := Duration.ofMillis interval
  maxQueueSize := queue
  batchSize := batch
  maxRetries := retries
  defaultEventType := (env Variable.defaultEventType.name).getD ({} : Config).defaultEventType
  logLevel := (env Variable.logLevel.name).getD ({} : Config).logLevel
  logFormat := format

theorem readEnvironment_eq : readEnvironment env = (do
    let interval ←
      readNumber env Variable.flushInterval.name maxWord ({} : Config).flushInterval.millis
    let queue ← readNumber env Variable.maxQueueSize.name maxWord ({} : Config).maxQueueSize
    let batch ← readNumber env Variable.batchSize.name maxWord ({} : Config).batchSize
    let retries ← readNumber env Variable.maxRetries.name maxHalfWord ({} : Config).maxRetries
    let format ← readFormat env
    pure (gather env interval queue batch retries format)) := by
  rw [readFormat]
  cases htext : env Variable.logFormat.name with
  | none =>
      have htext : env "MARGINDASH_LOG_FORMAT" = none := htext
      simp only [readEnvironment, htext]
      rfl
  | some text =>
      have htext : env "MARGINDASH_LOG_FORMAT" = some text := htext
      simp only [readEnvironment, htext]
      rfl

theorem given_gather {interval queue batch retries : Nat} {format : LogFormat}
    (hinterval : Said env .flushInterval ({} : Config).flushInterval.millis (Numbers maxWord)
      interval)
    (hqueue : Said env .maxQueueSize ({} : Config).maxQueueSize (Numbers maxWord) queue)
    (hbatch : Said env .batchSize ({} : Config).batchSize (Numbers maxWord) batch)
    (hretries : Said env .maxRetries ({} : Config).maxRetries (Numbers maxHalfWord) retries)
    (hformat : Said env .logFormat ({} : Config).logFormat Names format) :
    (gather env interval queue batch retries format).Given env where
  unset := by
    intro v hv
    cases v with
    | flushInterval =>
        show Duration.ofMillis interval = _
        rw [hinterval.unset hv]
        decide
    | maxQueueSize => exact hqueue.unset hv
    | batchSize => exact hbatch.unset hv
    | maxRetries => exact hretries.unset hv
    | logFormat => exact hformat.unset hv
    | _ => simp [Variable.Same, gather, hv]
  holds := by
    intro v text hv
    cases v with
    | apiKey =>
        show (env _).filter _ = _
        rw [hv]
        by_cases hempty : text = "" <;> simp [hempty]
    | baseUrl =>
        apply trimSlashes_eq_iff.mp
        simp [gather, hv]
    | flushInterval =>
        obtain ⟨hstands, hle⟩ := hinterval.set text hv
        refine ⟨interval, hstands, hle, Nat.min_eq_left ?_⟩
        simp only [maxWord] at hle
        simp only [Duration.milli, Duration.maxNanos]
        omega
    | maxQueueSize => exact hqueue.set text hv
    | batchSize => exact hbatch.set text hv
    | maxRetries => exact hretries.set text hv
    | logFormat => exact hformat.set text hv
    | _ => simp [Variable.Holds, gather, hv]
  backoff := ⟨rfl, rfl, rfl⟩

/-- The variables that hold texts cannot have a fault, and the others decide in their order. -/
theorem firstFault?_eq : firstFault? env =
    (faultOf env .flushInterval).or ((faultOf env .maxQueueSize).or
      ((faultOf env .batchSize).or ((faultOf env .maxRetries).or
        ((faultOf env .logFormat).or none)))) := by
  have hcons : ∀ v rest, List.findSome? (faultOf env) (v :: rest) =
      (faultOf env v).or (rest.findSome? (faultOf env)) := by
    intro v rest
    rw [List.findSome?_cons]
    cases faultOf env v <;> rfl
  have hkey := faultOf_text env .apiKey rfl (by decide)
  have hurl := faultOf_text env .baseUrl rfl (by decide)
  have htype := faultOf_text env .defaultEventType rfl (by decide)
  have hlevel := faultOf_text env .logLevel rfl (by decide)
  show Variable.inOrder.findSome? (faultOf env) = _
  simp only [Variable.inOrder, hcons, hkey, hurl, htype, hlevel, Option.none_or, List.findSome?_nil]

/-- Either all variables can be read and the settings are those that they give, or the first one that
cannot be read decides. -/
theorem reads_environment :
    Reads (firstFault? env) (Given env) (readEnvironment env) := by
  rw [readEnvironment_eq, firstFault?_eq]
  refine (reads_number env .flushInterval rfl _).bind fun interval hinterval => ?_
  refine (reads_number env .maxQueueSize rfl _).bind fun queue hqueue => ?_
  refine (reads_number env .batchSize rfl _).bind fun batch hbatch => ?_
  refine (reads_number env .maxRetries rfl _).bind fun retries hretries => ?_
  refine (reads_format env).bind fun format hformat => ?_
  exact ⟨rfl, given_gather env hinterval hqueue hbatch hretries hformat⟩

end Reading

variable {env : Environment} {c : Config} {problem : ConfigProblem}

theorem given_of_readEnvironment (h : readEnvironment env = .ok c) :
    firstFault? env = none ∧ c.Given env := by
  have hreads := reads_environment env
  rwa [h] at hreads

theorem ofEnvironment_eq_ok_iff : ofEnvironment env = .ok c ↔
    readEnvironment env = .ok c ∧ c.validate = .ok () := by
  constructor
  · intro h
    have hvalid := validate_of_ofEnvironment h
    rw [ofEnvironment] at h
    cases hread : readEnvironment env with
    | error problem =>
        rw [hread] at h
        cases h
    | ok read =>
        rw [hread] at h
        cases hranges : read.validate with
        | error problem => simp [bind, Except.bind, hranges] at h
        | ok _ =>
            obtain rfl : read = c := by simpa [bind, Except.bind, pure, Except.pure, hranges] using h
            exact ⟨rfl, hvalid⟩
  · rintro ⟨hread, hvalid⟩
    simp [ofEnvironment, hread, hvalid, bind, Except.bind, pure, Except.pure]

/-- A setting out of its range is a problem only once all variables are read. -/
theorem ofEnvironment_eq_error_iff : ofEnvironment env = .error problem ↔
    firstFault? env = some problem ∨
      firstFault? env = none ∧ ∃ c : Config, c.Given env ∧ c.complaints.head? = some problem := by
  rw [ofEnvironment]
  have hreads := reads_environment env
  cases hread : readEnvironment env with
  | ok read =>
    rw [hread] at hreads
    obtain ⟨hfault, hgiven⟩ := hreads
    have hranges : (∃ c : Config, c.Given env ∧ c.complaints.head? = some problem) ↔
        read.validate = .error problem := by
      rw [validate_eq_error_iff]
      constructor
      · rintro ⟨c, hc, hproblem⟩
        rwa [hgiven.unique hc]
      · exact fun hproblem => ⟨read, hgiven, hproblem⟩
    rw [hfault, hranges]
    cases hvalid : read.validate <;> simp [bind, Except.bind, pure, Except.pure, hvalid]
  | error first =>
    rw [hread] at hreads
    have hfault : firstFault? env = some first := hreads
    rw [hfault]
    simp [bind, Except.bind]

namespace Variable

theorem name_injective {v w : Variable} (h : v.name = w.name) : v = w := by
  revert h
  cases v <;> cases w <;> decide

/-- A text can be read exactly if it says something about a setting. -/
theorem fault?_eq_none_iff (v : Variable) (text : String) :
    v.fault? text = none ↔ ∃ c, v.Holds c text := by
  constructor
  · -- The settings that load where nothing else is set.
    intro hnone
    let env : Environment := fun name => if name = v.name then some text else none
    have hfault : firstFault? env = none := by
      rw [firstFault?, List.findSome?_eq_none_iff]
      intro w _
      by_cases hw : w = v
      · subst hw
        simpa [env] using hnone
      · have hname : w.name ≠ v.name := fun h => hw (name_injective h)
        simp [env, hname]
    have hreads := reads_environment env
    cases hread : readEnvironment env with
    | ok c =>
      rw [hread] at hreads
      exact ⟨c, hreads.2.holds v text (if_pos rfl)⟩
    | error problem =>
      rw [hread] at hreads
      cases hfault.symm.trans hreads
  · rintro ⟨c, hc⟩
    have hnumber : ∀ {bound n}, v.bound? = some bound →
        Text.Stands text.toList n ∧ n ≤ bound → v.fault? text = none := by
      intro bound n hbound hn
      simp [fault?, hbound, Text.readNat_eq_ok_iff.mpr hn]
    cases v with
    | flushInterval =>
        obtain ⟨millis, hstands, hle, -⟩ := hc
        exact hnumber rfl ⟨hstands, hle⟩
    | maxQueueSize => exact hnumber rfl hc
    | batchSize => exact hnumber rfl hc
    | maxRetries => exact hnumber rfl hc
    | logFormat =>
        have hlower : Text.toLower text = c.logFormat.name := hc
        simp only [fault?, bound?, hlower]
        cases c.logFormat <;> decide
    | _ => rfl

theorem message_of_fault? {v : Variable} {text : String} (h : v.fault? text = some problem) :
    ∃ reason, problem.message = "invalid " ++ v.name ++ ": " ++ reason := by
  unfold fault? at h
  split at h
  · split at h
    · cases h
    · rename_i error _
      obtain rfl := Option.some.inj h
      exact ⟨error.message, rfl⟩
  · dsimp only at h
    split at h
    · rename_i hformat
      obtain ⟨rfl, -⟩ := hformat
      obtain rfl := Option.some.inj h
      have hstart : "invalid " ++ logFormat.name ++ ": " = "invalid MARGINDASH_LOG_FORMAT: " := by
        decide
      refine ⟨Text.toLower text ++ " (expected 'json' or 'pretty')", ?_⟩
      rw [hstart, ← String.append_assoc]
      rfl
    · cases h

end Variable

/-- What is known of a variable on its own. -/
structure Variable.Checked (v : Variable) : Prop where
  listed : v ∈ inOrder
  /-- A text has a fault exactly if it says nothing about the setting. -/
  readable : ∀ text, v.fault? text = none ↔ ∃ c, v.Holds c text
  named : ∀ text problem, v.fault? text = some problem →
    ∃ reason, problem.message = "invalid " ++ v.name ++ ": " ++ reason

/-- What the bytes in the variables come to. -/
structure Loading (values : String → Option (List Nat)) : Prop where
  /-- A variable says nothing if it is not set, or not to a text. -/
  unset : ∀ name, Environment.ofBytes values name = none ↔
    values name = none ∨
      ∃ bytes error, values name = some bytes ∧ Text.decodeUtf8 bytes = .error error
  text : ∀ name text, Environment.ofBytes values name = some text ↔
    ∃ bytes, values name = some bytes ∧ Text.decodeUtf8 bytes = .ok text
  /-- Settings that load are those that the variables give, and a scheduler is built from them. -/
  loaded : ∀ c, ofEnvironment (.ofBytes values) = .ok c →
    c.Given (.ofBytes values) ∧ c.validate = .ok () ∧
    c.baseUrl.toList.getLast? ≠ some '/' ∧
    ∀ transport reporter, ∃ built, Scheduler.create c transport reporter = .ok built
  /-- The first variable that cannot be read decides the problem, and if all can, the first setting
  that is out of its range. -/
  refused : ∀ problem, ofEnvironment (.ofBytes values) = .error problem ↔
    firstFault? (.ofBytes values) = some problem ∨
      firstFault? (.ofBytes values) = none ∧
        ∃ c : Config, c.Given (.ofBytes values) ∧ c.complaints.head? = some problem
  /-- One variable has no influence on the settings of the others. -/
  framed : ∀ others (v : Variable) c d,
    (∀ w : Variable, w ≠ v → values w.name = others w.name) →
    ofEnvironment (.ofBytes values) = .ok c → ofEnvironment (.ofBytes others) = .ok d →
    (∀ w : Variable, w ≠ v → w.Same c d) ∧ c.backoffBase = d.backoffBase ∧
      c.backoffMax = d.backoffMax ∧ c.jitter = d.jitter

/-- The variables decide the settings, each its own. -/
theorem environment_decides_settings :
    (∀ v : Variable, v.Checked) ∧ ∀ values, Loading values := by
  constructor
  · intro v
    exact ⟨v.mem_inOrder, v.fault?_eq_none_iff, fun _ _ => Variable.message_of_fault?⟩
  · intro values
    constructor
    case unset => exact fun _ => Environment.ofBytes_eq_none_iff
    case text => exact fun _ _ => Environment.ofBytes_eq_some_iff
    case loaded =>
      intro c hc
      obtain ⟨hread, hvalid⟩ := ofEnvironment_eq_ok_iff.mp hc
      obtain ⟨-, hgiven⟩ := given_of_readEnvironment hread
      exact ⟨hgiven, hvalid, hgiven.address,
        fun transport reporter => ⟨_, Scheduler.create_of_validate hvalid transport reporter⟩⟩
    case refused => exact fun _ => ofEnvironment_eq_error_iff
    case framed =>
      intro others v c d hothers hc hd
      obtain ⟨-, hc⟩ := given_of_readEnvironment (ofEnvironment_eq_ok_iff.mp hc).1
      obtain ⟨-, hd⟩ := given_of_readEnvironment (ofEnvironment_eq_ok_iff.mp hd).1
      obtain ⟨hbase, hmax, hjitter⟩ := hc.backoff
      obtain ⟨hbase', hmax', hjitter'⟩ := hd.backoff
      refine ⟨?_, hbase.trans hbase'.symm, hmax.trans hmax'.symm, hjitter.trans hjitter'.symm⟩
      intro w hw
      apply hc.same hd
      rw [Environment.ofBytes, Environment.ofBytes, hothers w hw]

end Config

end Courier
