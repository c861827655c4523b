/-!
# Failures

What can go wrong, by kind. The kinds of this library form a tree; a handler for one kind also
handles the kinds below it. The network and everything underneath have kinds of their own, outside
the tree.
-/

namespace ServerPower

inductive NetworkFault where
  | request
  | connection
  | status
  | timeout
  | connectTimeout
  | readTimeout
  | certificate
  | proxy
  | redirects
  | address
  | scheme
  | chunk
  | body
  deriving DecidableEq, Repr

/-- The kinds of failure. -/
inductive FailureKind where
  /-- The root of the tree. -/
  | general
  | invalid
  | invalidParameter
  | missingHardware
  | manager
  /-- A request that failed or was answered with an error status. -/
  | transport
  | decoding
  | powerChange
  | powerTimeout
  | network (fault : NetworkFault)
  | wrongType
  | wrongValue
  | missingOperation
  | missingKey
  | overflow
  | runtime
  | system
  | unknownOption
  | unknownGroup
  | groupReference
  | recursion
  /-- An option whose value in the configuration file is not accepted. -/
  | optionFile
  | optionSource
  | missingFiles
  | foreignFile
  | missingDirectory
  | directoryAsFile
  | fileAsDirectory
  | memory
  /-- A condition taken for granted that does not hold. -/
  | assumption
  deriving DecidableEq, Repr

namespace FailureKind

def parent? : FailureKind → Option FailureKind
  | .invalid | .manager | .powerChange => some .general
  | .invalidParameter | .missingHardware => some .invalid
  | .transport | .decoding => some .manager
  | .powerTimeout => some .powerChange
  | _ => none

/-- The kind itself and the kinds above it, up to the root. No kind is deeper than three. -/
def lineage (kind : FailureKind) : List FailureKind :=
  match kind.parent? with
  | none => [kind]
  | some above =>
    match above.parent? with
    | none => [kind, above]
    | some root => [kind, above, root]

def isA (kind above : FailureKind) : Bool :=
  kind.lineage.contains above

def isNetwork : FailureKind → Bool
  | .network _ => true
  | _ => false

theorem isA_general_network (fault : NetworkFault) : (network fault).isA general = false := by
  cases fault <;> rfl

end FailureKind

structure Failure where
  kind : FailureKind
  text : String
  deriving DecidableEq, Repr

namespace Failure

instance : Inhabited Failure := ⟨.general, ""⟩

def isA (failure : Failure) (kind : FailureKind) : Bool :=
  failure.kind.isA kind

end Failure

/-- A step and what follows it succeed only if both do. -/
theorem exists_of_bind_eq_ok {ε α β : Type} {x : Except ε α} {f : α → Except ε β} {b : β}
    (h : (x >>= f) = .ok b) : ∃ a, x = .ok a ∧ f a = .ok b := by
  cases x with
  | error failure => cases h
  | ok a => exact ⟨a, rfl, h⟩

end ServerPower
