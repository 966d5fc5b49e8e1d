import CodeMetrics.Error

/-!
# Log records and traced computations

A `Traced` computation ends in a value or an error, and either way leaves the log records it has written. Its outcome
alone is an ordinary `Except`: `Traced.outcome` commutes with sequencing, so statements about results need not
mention the log.
-/

namespace CodeMetrics

/-- How much a record matters, in increasing order. -/
inductive Level where
  | debug
  | info
  | warning
  | error
  | critical
  deriving DecidableEq, Repr

namespace Level

def rank : Level → Nat
  | debug => 10
  | info => 20
  | warning => 30
  | error => 40
  | critical => 50

def text : Level → String
  | debug => "DEBUG"
  | info => "INFO"
  | warning => "WARNING"
  | error => "ERROR"
  | critical => "CRITICAL"

end Level

/-- One log record. -/
structure Record where
  level : Level
  logger : String
  message : String
  deriving DecidableEq, Repr

/-- A record as it stands in a log file, without its time. -/
def Record.line (r : Record) : String := r.logger ++ " - " ++ r.level.text ++ " - " ++ r.message

/-- The name of the logger above all others. -/
def rootLogger : String := "qualytics"

/-- A logger's full name: names outside the root logger's are put below it. -/
def loggerName (name : Option String) : String :=
  match name with
  | none => rootLogger
  | some name => if rootLogger.toList.isPrefixOf name.toList then name else rootLogger ++ "." ++ name

/-- A computation that writes log records. -/
structure Traced (α : Type) where
  log : List Record
  outcome : Except Error α

namespace Traced

variable {α β : Type}

def pure (a : α) : Traced α := ⟨[], .ok a⟩

def bind (x : Traced α) (f : α → Traced β) : Traced β :=
  match x.outcome with
  | .ok a => ⟨x.log ++ (f a).log, (f a).outcome⟩
  | .error e => ⟨x.log, .error e⟩

instance : Monad Traced where
  pure := Traced.pure
  bind := Traced.bind

/-- A computation without records. -/
def lift (x : Except Error α) : Traced α := ⟨[], x⟩

def fail (e : Error) : Traced α := ⟨[], .error e⟩

/-- Writes one record. -/
def note (level : Level) (logger message : String) : Traced Unit := ⟨[⟨level, logger, message⟩], .ok ()⟩

@[simp] theorem outcome_pure (a : α) : (Pure.pure a : Traced α).outcome = .ok a := rfl

@[simp] theorem outcome_lift (x : Except Error α) : (lift x).outcome = x := rfl

@[simp] theorem outcome_fail (e : Error) : (fail e : Traced α).outcome = .error e := rfl

@[simp] theorem outcome_note (level : Level) (logger message : String) :
    (note level logger message).outcome = .ok () := rfl

@[simp] theorem outcome_bind (x : Traced α) (f : α → Traced β) :
    (x >>= f).outcome = x.outcome >>= fun a => (f a).outcome := by
  show (Traced.bind x f).outcome = _
  unfold Traced.bind
  cases x.outcome <;> rfl

end Traced

end CodeMetrics
