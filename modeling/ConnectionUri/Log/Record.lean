import ConnectionUri.Value.Basic

/-!
# Log records

Records are data: a computation that logs returns the records it leaves, in order, beside its
result. A failed computation keeps the records it left before it failed.
-/

set_option autoImplicit false

namespace ConnectionUri.Log

/-- The severity levels, `notset` being the absence of one. -/
inductive Level where
  | notset
  | debug
  | info
  | warning
  | error
  | critical
  deriving DecidableEq

namespace Level

def severity : Level → Nat
  | .notset => 0
  | .debug => 10
  | .info => 20
  | .warning => 30
  | .error => 40
  | .critical => 50

/-- The canonical name. -/
def name : Level → Text
  | .notset => "NOTSET".toList
  | .debug => "DEBUG".toList
  | .info => "INFO".toList
  | .warning => "WARNING".toList
  | .error => "ERROR".toList
  | .critical => "CRITICAL".toList

/-- The names of levels; two levels have a second name. -/
def names : List (Text × Level) :=
  [("CRITICAL".toList, .critical), ("FATAL".toList, .critical), ("ERROR".toList, .error),
   ("WARNING".toList, .warning), ("WARN".toList, .warning), ("INFO".toList, .info),
   ("DEBUG".toList, .debug), ("NOTSET".toList, .notset)]

def ofName? (name : Text) : Option Level := names.lookup name

end Level

/-- A record before formatting: a template and the arguments it takes. -/
structure Record where
  logger : Text
  level : Level
  template : Text
  arguments : List Value

namespace Record

def rootName : Text := "root".toList

/-- Whether a record was logged on the root logger itself. -/
def isRoot (record : Record) : Bool := record.logger == rootName

end Record

/-- A computation that may fail and leaves records either way. -/
structure Traced (ε α : Type) where
  records : List Record
  result : Except ε α

namespace Traced

variable {ε α β : Type}

/-- A result without records. -/
def done (value : α) : Traced ε α := ⟨[], .ok value⟩

/-- A failure without records. -/
def fail (error : ε) : Traced ε α := ⟨[], .error error⟩

/-- A result or failure without records. -/
def lift (result : Except ε α) : Traced ε α := ⟨[], result⟩

def note (record : Record) : Traced ε Unit := ⟨[record], .ok ()⟩

def notes (records : List Record) : Traced ε Unit := ⟨records, .ok ()⟩

/-- Runs a second computation on the result of the first; the records follow one another. -/
def andThen (first : Traced ε α) (next : α → Traced ε β) : Traced ε β :=
  match first.result with
  | .ok value => ⟨first.records ++ (next value).records, (next value).result⟩
  | .error error => ⟨first.records, .error error⟩

def mapError {δ : Type} (change : ε → δ) (run : Traced ε α) : Traced δ α :=
  ⟨run.records, run.result.mapError change⟩

instance : Monad (Traced ε) where
  pure := done
  bind := andThen

/-- The result of two computations in a row depends on their results alone. -/
@[simp] theorem result_bind (first : Traced ε α) (next : α → Traced ε β) :
    (first >>= next).result = first.result >>= fun value => (next value).result := by
  cases found : first.result with
  | ok value => simp [Bind.bind, andThen, Except.bind, found]
  | error error => simp [Bind.bind, andThen, Except.bind, found]

@[simp] theorem result_pure (value : α) : (pure value : Traced ε α).result = .ok value := rfl

@[simp] theorem records_pure (value : α) : (pure value : Traced ε α).records = [] := rfl

@[simp] theorem result_note (record : Record) : (note record : Traced ε Unit).result = .ok () := rfl

@[simp] theorem result_lift (result : Except ε α) : (lift result).result = result := rfl

@[simp] theorem records_lift (result : Except ε α) : (lift result).records = [] := rfl

end Traced

end ConnectionUri.Log
