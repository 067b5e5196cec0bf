import TcOtel.Core.Config

/-!
# What has changed between two configurations

`ConfigDiff` of `config_watcher.rs`, with a flag for every section of the settings but one: there is none
for `traces`. Sections are compared by the derived `PartialEq`. In the settings of an output that is the
one of `serde_json`, for which a negative zero is a zero.
-/

namespace TcOtel.Config

/-! ### Equality of values -/

/-- `f64 ==`, for floats that are finite. -/
def floatEq (a b : F64) : Bool := a = b ∨ (a.bits.toNat % 2 ^ 63 = 0 ∧ b.bits.toNat % 2 ^ 63 = 0)

def numberEq : Number → Number → Bool
  | .posInt a, .posInt b => a = b
  | .negInt a _, .negInt b _ => a = b
  | .float a _, .float b _ => floatEq a b
  | _, _ => false

mutual

def valueEq : Json → Json → Bool
  | .null, .null => true
  | .bool a, .bool b => a = b
  | .number a, .number b => numberEq a b
  | .string a, .string b => a = b
  | .array xs, .array ys => itemsEq xs ys
  | .object xs, .object ys => fieldsEq xs ys
  | _, _ => false

def itemsEq : List Json → List Json → Bool
  | [], [] => true
  | x :: xs, y :: ys => valueEq x y && itemsEq xs ys
  | _, _ => false

def fieldsEq : List (String × Json) → List (String × Json) → Bool
  | [], [] => true
  | (k, x) :: xs, (l, y) :: ys => k = l && valueEq x y && fieldsEq xs ys
  | _, _ => false

end

def outputEq (a b : OutputConfig) : Bool := a.outputType = b.outputType && fieldsEq a.settings.fields b.settings.fields

def outputsEq : List OutputConfig → List OutputConfig → Bool
  | [], [] => true
  | a :: as, b :: bs => outputEq a b && outputsEq as bs
  | _, _ => false

/-! ### Sections -/

inductive Section where
  | logging | receiver | «export» | outputs | service | web | metrics | diagnostics | traces
deriving DecidableEq

def Section.name : Section → String
  | .logging => "logging"
  | .receiver => "receiver"
  | .export => "export"
  | .outputs => "outputs"
  | .service => "service"
  | .web => "web"
  | .metrics => "metrics"
  | .diagnostics => "diagnostics"
  | .traces => "traces"

def differsIn (old new : AppSettings) : Section → Bool
  | .logging => old.logging ≠ new.logging
  | .receiver => old.receiver ≠ new.receiver
  | .export => old.export ≠ new.export
  | .outputs => !outputsEq old.outputs new.outputs
  | .service => old.service ≠ new.service
  | .web => old.web ≠ new.web
  | .metrics => old.metrics ≠ new.metrics
  | .diagnostics => old.diagnostics ≠ new.diagnostics
  | .traces => old.traces ≠ new.traces

/-! ### The diff -/

structure ConfigDiff where
  exportChanged : Bool
  loggingChanged : Bool
  receiverChanged : Bool
  serviceChanged : Bool
  outputsChanged : Bool
  webChanged : Bool
  metricsChanged : Bool
  diagnosticsChanged : Bool
deriving DecidableEq

namespace ConfigDiff

def compute (old new : AppSettings) : ConfigDiff where
  exportChanged := old.export ≠ new.export
  loggingChanged := old.logging ≠ new.logging
  receiverChanged := old.receiver ≠ new.receiver
  serviceChanged := old.service ≠ new.service
  outputsChanged := !outputsEq old.outputs new.outputs
  webChanged := old.web ≠ new.web
  metricsChanged := old.metrics ≠ new.metrics
  diagnosticsChanged := old.diagnostics ≠ new.diagnostics

def isEmpty (d : ConfigDiff) : Bool :=
  !d.exportChanged && !d.loggingChanged && !d.receiverChanged && !d.serviceChanged && !d.outputsChanged &&
    !d.webChanged && !d.metricsChanged && !d.diagnosticsChanged

def names (d : ConfigDiff) : Section → Bool
  | .logging => d.loggingChanged
  | .receiver => d.receiverChanged
  | .export => d.exportChanged
  | .outputs => d.outputsChanged
  | .service => d.serviceChanged
  | .web => d.webChanged
  | .metrics => d.metricsChanged
  | .diagnostics => d.diagnosticsChanged
  -- there is no flag for it
  | .traces => false

theorem isEmpty_iff (d : ConfigDiff) : d.isEmpty = true ↔ ∀ part, d.names part = false := by
  constructor
  · intro empty part
    simp only [isEmpty, Bool.and_eq_true, Bool.not_eq_true'] at empty
    obtain ⟨⟨⟨⟨⟨⟨⟨_, _⟩, _⟩, _⟩, _⟩, _⟩, _⟩, _⟩ := empty
    cases part <;> first | assumption | rfl
  · intro none
    have first : d.exportChanged = false ∧ d.loggingChanged = false ∧ d.receiverChanged = false ∧
        d.serviceChanged = false := ⟨none .export, none .logging, none .receiver, none .service⟩
    have second : d.outputsChanged = false ∧ d.webChanged = false ∧ d.metricsChanged = false ∧
        d.diagnosticsChanged = false := ⟨none .outputs, none .web, none .metrics, none .diagnostics⟩
    simp [isEmpty, first, second]

theorem names_compute (covered : part ≠ .traces) (old new : AppSettings) :
    (compute old new).names part = differsIn old new part := by
  cases part <;> first | rfl | exact absurd rfl covered

end ConfigDiff

end TcOtel.Config
