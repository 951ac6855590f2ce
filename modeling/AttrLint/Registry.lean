import AttrLint.Entries
import AttrLint.Report

namespace AttrLint

/-!
# Registries of services

A registry holds the services of the program by name.  There is one global registry, made when it is
first asked for; others can be made beside it.

* `Registry.get` — the service of a name.
* `Registries` — all registries that have been made, the current one, and the global one.
-/

/-- A service, or a text that has been registered in its place.  Each registry makes its own file
service, which has the registry's number. -/
inductive Service where
  | telemetry
  | fileSystem (owner : Nat)
  /-- The loader of rule files, which uses the given file service. -/
  | ruleLoader (fileSystem : Nat)
  | documentReader
  | reporterFactory
  | custom (value : String)
  deriving DecidableEq, Repr

/-- Services by name. -/
structure Registry where
  services : List (String × Service)
  deriving DecidableEq, Repr

/-- Why a registry does not answer. -/
inductive RegistryError where
  | notRegistered (key : String)
  /-- What is registered as the loader of rule files is a text. -/
  | notLoader
  /-- What is registered as the factory of reporters is a text. -/
  | notFactory
  | unknownFormat (name : String)
  deriving DecidableEq, Repr

/-- The error in words. -/
def RegistryError.message : RegistryError → String
  | .notRegistered key => "Dependency '" ++ key ++ "' not registered."
  | .notLoader => "'str' object has no attribute 'filesystem'"
  | .notFactory => "'str' object is not callable"
  | .unknownFormat name => "Unknown output format: " ++ Text.quoted name

namespace Registry

/-- The name of the service that shows messages. -/
def telemetryKey : String := "TelemetryPort"

/-- The name of the file service. -/
def fileSystemKey : String := "FileSystemGateway"

/-- The name of the loader of rule files. -/
def ruleLoaderKey : String := "ConfigFileLoader"

/-- The name of the reader of documents. -/
def documentReaderKey : String := "XmlDocumentGateway"

/-- The name of the factory of reporters. -/
def reporterFactoryKey : String := "ReporterFactory"

/-- The registry with the given number, as it is made. -/
def new (number : Nat) : Registry :=
  ⟨[(telemetryKey, .telemetry), (fileSystemKey, .fileSystem number),
    (ruleLoaderKey, .ruleLoader number), (documentReaderKey, .documentReader),
    (reporterFactoryKey, .reporterFactory)]⟩

/-- Registers a service under a name. -/
def register (r : Registry) (key : String) (service : Service) : Registry :=
  ⟨Entries.put r.services key service⟩

/-- The service of a name. -/
def get (r : Registry) (key : String) : Except RegistryError Service :=
  match r.services.lookup key with
  | some service => .ok service
  | none => .error (.notRegistered key)

/-- Says whether the loader of rule files uses the registered file service. -/
def sharesFileSystem (r : Registry) : Except RegistryError Bool := do
  match ← r.get ruleLoaderKey with
  | .ruleLoader owner => return (← r.get fileSystemKey) == .fileSystem owner
  | _ => throw .notLoader

/-- The format of the reporter that the registered factory makes. -/
def reporter (r : Registry) (format : String) : Except RegistryError Format := do
  match ← r.get reporterFactoryKey with
  | .reporterFactory =>
    match Format.ofName? format with
    | some format => return format
    | none => throw (.unknownFormat format)
  | _ => throw .notFactory

end Registry

/-- All registries that have been made, by number. -/
structure Registries where
  registries : List Registry
  /-- The number of the registry in use. -/
  current : Nat
  /-- The number of the global registry, if it has been made. -/
  global : Option Nat
  deriving Repr

namespace Registries

/-- One registry in use, and no global one. -/
def start : Registries :=
  ⟨[Registry.new 0], 0, none⟩

/-- The registry in use. -/
def inUse (rs : Registries) : Registry :=
  rs.registries.getD rs.current (Registry.new rs.current)

/-- Makes a registry and uses it. -/
def makeNew (rs : Registries) : Registries :=
  let number := rs.registries.length
  { rs with registries := rs.registries ++ [Registry.new number], current := number }

/-- Uses the global registry, which is made if there is none. -/
def useGlobal (rs : Registries) : Registries :=
  match rs.global with
  | some number => { rs with current := number }
  | none =>
    let rs := rs.makeNew
    { rs with global := some rs.current }

/-- Forgets the global registry. -/
def reset (rs : Registries) : Registries :=
  { rs with global := none }

/-- Registers a service in the registry in use. -/
def register (rs : Registries) (key : String) (service : Service) : Registries :=
  { rs with registries := rs.registries.modify rs.current (·.register key service) }

end Registries

end AttrLint
