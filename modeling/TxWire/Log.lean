import TxWire.Chain

/-!
What the library reports: its version, events while it works, and computations that report them.

* `Logged` carries a value together with the events reported on the way to it; `LawfulMonad`
  says that the order of reports is the order of steps, however they are grouped.
-/

namespace TxWire

/-- The version, as major, minor and patch number. -/
def version : String := "0.1.0"

/-- How much attention an event asks for. -/
inductive Level
  | trace
  | debug
  | warn
  deriving DecidableEq, Repr

/-- The name of a level. -/
def Level.name : Level → String
  | .trace => "TRACE"
  | .debug => "DEBUG"
  | .warn => "WARN"

/-- Something worth a line in a log. -/
inductive Event
  /-- A transaction with extensions is about to be packed. -/
  | reservedExtensions (count : Nat)
  /-- A transaction was packed. -/
  | packed (contextFreeActions actions bytes : Nat)
  /-- A signer signed a transaction. -/
  | signed (chainId : ChainId) (bytes signatures : Nat)
  /-- Settings were read and found valid. -/
  | settingsLoaded (network : Network) (expirationSeconds : Nat)
  /-- There is no settings file, so the defaults hold. -/
  | settingsMissing
  deriving DecidableEq

namespace Event

/-- The level of an event. -/
def level : Event → Level
  | reservedExtensions _ => .warn
  | packed _ _ _ => .trace
  | signed _ _ _ => .debug
  | settingsLoaded _ _ => .debug
  | settingsMissing => .warn

/-- The text of an event. -/
def message : Event → String
  | reservedExtensions _ => "packing transaction with reserved extensions"
  | packed _ _ _ => "packed transaction"
  | signed _ _ _ => "signed transaction"
  | settingsLoaded _ _ => "loaded transaction settings"
  | settingsMissing => "settings file not found, using defaults"

/-- The fields of an event, each as text. -/
def fields : Event → List (String × String)
  | reservedExtensions count => [("count", toString count)]
  | packed contextFreeActions actions bytes =>
    [ ("context_free_actions", toString contextFreeActions), ("actions", toString actions),
      ("bytes", toString bytes)]
  | signed chainId bytes signatures =>
    [ ("chain_id", chainId.hex), ("bytes", toString bytes),
      ("signatures", toString signatures)]
  | settingsLoaded network expirationSeconds =>
    [("network", network.title), ("expiration_seconds", toString expirationSeconds)]
  | settingsMissing => []

end Event

/-- A value and the events reported on the way to it, earliest first. -/
structure Logged (α : Type) where
  value : α
  events : List Event := []

namespace Logged

instance : Monad Logged where
  pure value := { value }
  bind x f := { value := (f x.value).value, events := x.events ++ (f x.value).events }

/-- Reports an event. -/
def report (event : Event) : Logged Unit := { value := (), events := [event] }

variable {α β : Type}

@[simp] theorem value_pure (a : α) : (pure a : Logged α).value = a := rfl

@[simp] theorem events_pure (a : α) : (pure a : Logged α).events = [] := rfl

@[simp] theorem value_bind (x : Logged α) (f : α → Logged β) :
    (x >>= f).value = (f x.value).value := rfl

@[simp] theorem events_bind (x : Logged α) (f : α → Logged β) :
    (x >>= f).events = x.events ++ (f x.value).events := rfl

/-- What comes next matters only for the value at hand. -/
theorem bind_congr_value {x : Logged α} {f g : α → Logged β} (h : f x.value = g x.value) :
    x >>= f = x >>= g := by
  show Logged.mk _ _ = Logged.mk _ _
  rw [h]

instance : LawfulMonad Logged := LawfulMonad.mk' Logged
  (fun _ => by simp [Functor.map])
  (fun _ _ => by simp [bind, pure])
  (fun _ _ _ => by simp [bind])

end Logged

end TxWire
