import AttrLint.Registry

namespace AttrLint

/-!
# Registries do not share what is registered

Registries are used in any order: new ones are made, the global one is asked for and forgotten, and
services are registered in the one that is in use and looked up.  This file says what holds after
every such sequence of calls.

* `Registries.Call`, `Registries.call`, `Registries.after` — the uses of registries, and what they
  leave.
* `Registries.Does` — all that a call can do.
* `Registries.registry`, `Registries.registeredIn` — a registry by its number, and what calls
  register in it.
* `Registries.registry_after` — a registry is as it was made, with what was registered in it and
  nothing else.
* `Registries.AgreeBut` — two states that differ in one registry only; calls keep that.
* `Registries.Outdates` — all registries up to a number are no longer global, and never will be.
* `Registries.registries_isolated` — the main statement.
-/

namespace Registry

/-- The service that a registry with the given number is made with, under each of five names. -/
def default? (number : Nat) (key : String) : Option Service :=
  if key = telemetryKey then some .telemetry
  else if key = fileSystemKey then some (.fileSystem number)
  else if key = ruleLoaderKey then some (.ruleLoader number)
  else if key = documentReaderKey then some .documentReader
  else if key = reporterFactoryKey then some .reporterFactory
  else none

/-- A new registry holds what it is made with. -/
theorem lookup_new (number : Nat) (key : String) :
    (new number).services.lookup key = default? number key := by
  have hkey (k : String) (s : Service) (rest : List (String × Service)) :
      ((k, s) :: rest).lookup key = if key = k then some s else rest.lookup key := by
    by_cases h : key = k
    · simp [h]
    · have hne : (key == k) = false := by simpa using h
      simp [List.lookup_cons, h, hne]
  simp only [new, hkey, List.lookup_nil]
  rfl

/-- A look-up finds what is there. -/
theorem get_eq (r : Registry) (key : String) :
    r.get key = (r.services.lookup key).elim (.error (.notRegistered key)) .ok := by
  rw [get]
  cases r.services.lookup key with
  | none => rfl
  | some service => rfl

end Registry

namespace Registries

/-! ### Calls -/

/-- The uses of registries. -/
inductive Call where
  | makeNew
  | useGlobal
  | reset
  /-- Registers a service in the registry in use. -/
  | register (key : String) (service : Service)
  /-- Looks a service up in the registry in use. -/
  | get (key : String)
  /-- Asks whether the loader of the registry in use has its file service. -/
  | sharesFileSystem
  deriving DecidableEq, Repr

/-- What a call answers. -/
inductive Answer where
  | done
  /-- The global registry, by its number. -/
  | global (number : Nat)
  | service (found : Except RegistryError Service)
  | shares (answer : Except RegistryError Bool)

/-- What a call leaves, and what it answers. -/
def call (rs : Registries) : Call → Registries × Answer
  | .makeNew => (rs.makeNew, .done)
  | .useGlobal => (rs.useGlobal, .global rs.useGlobal.current)
  | .reset => (rs.reset, .done)
  | .register key service => (rs.register key service, .done)
  | .get key => (rs, .service (rs.inUse.get key))
  | .sharesFileSystem => (rs, .shares rs.inUse.sharesFileSystem)

/-- The registries after calls. -/
def after (rs : Registries) (calls : List Call) : Registries :=
  calls.foldl (fun rs c => (rs.call c).1) rs

@[simp] theorem after_nil (rs : Registries) : rs.after [] = rs :=
  rfl

@[simp] theorem after_cons (rs : Registries) (c : Call) (calls : List Call) :
    rs.after (c :: calls) = (rs.call c).1.after calls :=
  rfl

@[simp] theorem after_append (rs : Registries) (s t : List Call) :
    rs.after (s ++ t) = (rs.after s).after t :=
  List.foldl_append

/-- All that a call can do.  The global registry is made if there is none, and used otherwise. -/
inductive Does (rs : Registries) : Call → Registries → Prop
  | make : Does rs .makeNew rs.makeNew
  | makeGlobal (h : rs.global = none) :
    Does rs .useGlobal { rs.makeNew with global := some rs.registries.length }
  | useGlobal {number : Nat} (h : rs.global = some number) :
    Does rs .useGlobal { rs with current := number }
  | reset : Does rs .reset rs.reset
  | register (key : String) (service : Service) :
    Does rs (.register key service) (rs.register key service)
  | get (key : String) : Does rs (.get key) rs
  | sharesFileSystem : Does rs .sharesFileSystem rs

/-- Without a global registry, a new one becomes global. -/
theorem useGlobal_of_none {rs : Registries} (h : rs.global = none) :
    rs.useGlobal = { rs.makeNew with global := some rs.registries.length } := by
  simp [Registries.useGlobal, h, makeNew]

/-- The global registry is used as it is. -/
theorem useGlobal_of_some {rs : Registries} {number : Nat} (h : rs.global = some number) :
    rs.useGlobal = { rs with current := number } := by
  simp [Registries.useGlobal, h]

/-- A call does one of the things that calls can do. -/
theorem does_call (rs : Registries) (c : Call) : Does rs c (rs.call c).1 := by
  cases c with
  | makeNew => exact .make
  | useGlobal =>
    rw [call]
    cases hglobal : rs.global with
    | none =>
      rw [useGlobal_of_none hglobal]
      exact .makeGlobal hglobal
    | some number =>
      rw [useGlobal_of_some hglobal]
      exact .useGlobal hglobal
  | reset => exact .reset
  | register key service => exact .register key service
  | get key => exact .get key
  | sharesFileSystem => exact .sharesFileSystem

/-- Says that the registry in use and the global one have been made. -/
structure Sound (rs : Registries) : Prop where
  current : rs.current < rs.registries.length
  global : ∀ number, rs.global = some number → number < rs.registries.length

/-- At the start there is one registry, and it is in use. -/
theorem sound_start : start.Sound where
  current := by decide
  global := by simp [start]

variable {rs rs' : Registries} {c : Call}

/-- There is one registry more. -/
@[simp]
theorem length_makeNew (rs : Registries) :
    rs.makeNew.registries.length = rs.registries.length + 1 := by
  simp [makeNew]

/-- To register a service makes no registry. -/
@[simp]
theorem length_register (rs : Registries) (key : String) (service : Service) :
    (rs.register key service).registries.length = rs.registries.length := by
  simp [Registries.register]

/-- No registry is ever lost. -/
theorem Does.length_le (h : Does rs c rs') : rs.registries.length ≤ rs'.registries.length := by
  cases h with
  | make | makeGlobal => rw [length_makeNew]; omega
  | register => exact Nat.le_of_eq (length_register ..).symm
  | useGlobal | reset | get | sharesFileSystem => exact Nat.le_refl _

/-- What is in use has been made, and so has what is global, after one call. -/
theorem Does.sound (h : Does rs c rs') (hrs : rs.Sound) : rs'.Sound := by
  have hlonger := h.length_le
  cases h with
  | make =>
    refine ⟨by rw [length_makeNew]; exact Nat.lt_succ_self _, fun number hnumber => ?_⟩
    exact Nat.lt_of_lt_of_le (hrs.global number hnumber) hlonger
  | makeGlobal hnone =>
    refine ⟨by rw [length_makeNew]; exact Nat.lt_succ_self _, ?_⟩
    rintro number ⟨⟩
    rw [length_makeNew]
    exact Nat.lt_succ_self _
  | useGlobal hsome => exact ⟨hrs.global _ hsome, hrs.global⟩
  | reset => exact ⟨hrs.current, fun number hnumber => by cases hnumber⟩
  | register key service =>
    refine ⟨Nat.lt_of_lt_of_le hrs.current hlonger, fun number hnumber => ?_⟩
    exact Nat.lt_of_lt_of_le (hrs.global number hnumber) hlonger
  | get | sharesFileSystem => exact hrs

/-- The same after any calls. -/
theorem Sound.after (h : rs.Sound) (calls : List Call) : (rs.after calls).Sound := by
  induction calls generalizing rs with
  | nil => exact h
  | cons c calls ih => exact ih ((rs.does_call c).sound h)

/-! ### What a registry holds -/

/-- The registry with the given number; one that has not been made yet is as it will be made. -/
def registry (rs : Registries) (number : Nat) : Registry :=
  rs.registries.getD number (Registry.new number)

/-- What a call registers in the registry with the given number. -/
def registeredBy (rs : Registries) (number : Nat) : Call → List (String × Service)
  | .register key service => if rs.current = number then [(key, service)] else []
  | _ => []

/-- What calls register in the registry with the given number, in their order. -/
def registeredIn (rs : Registries) (number : Nat) : List Call → List (String × Service)
  | [] => []
  | c :: calls => rs.registeredBy number c ++ registeredIn (rs.call c).1 number calls

/-- A new registry is as it was to be made, and no other one changes. -/
theorem registry_makeNew (rs : Registries) (number : Nat) :
    rs.makeNew.registry number = rs.registry number := by
  simp only [registry, makeNew, List.getD_eq_getElem?_getD, List.getElem?_append]
  split
  · rfl
  · rename_i hnumber
    rw [List.getElem?_eq_none (Nat.le_of_not_lt hnumber), List.getElem?_singleton]
    split
    · obtain rfl : number = rs.registries.length := by omega
      rfl
    · rfl

/-- A service is registered in the registry in use. -/
theorem registry_register (hrs : rs.Sound) (key : String) (service : Service) (number : Nat) :
    (rs.register key service).registry number =
      if rs.current = number then (rs.registry number).register key service
      else rs.registry number := by
  simp only [registry, Registries.register, List.getD_eq_getElem?_getD, List.getElem?_modify]
  split
  · rename_i hcurrent
    subst hcurrent
    simp [List.getElem?_eq_getElem hrs.current]
  · rw [id_map']

/-- **A call changes a registry only by what it registers there.** -/
theorem Does.registry_eq (h : Does rs c rs') (hrs : rs.Sound) (number : Nat) :
    rs'.registry number =
      ⟨Entries.override (rs.registry number).services (rs.registeredBy number c)⟩ := by
  cases h with
  | make => exact registry_makeNew rs number
  | makeGlobal => exact registry_makeNew rs number
  | register key service =>
    rw [registry_register hrs, registeredBy]
    split <;> rfl
  | useGlobal | reset | get | sharesFileSystem => rfl

/-- **A registry holds what was registered in it**, on top of what it was made with. -/
theorem registry_after (hrs : rs.Sound) (number : Nat) (calls : List Call) :
    (rs.after calls).registry number =
      ⟨Entries.override (rs.registry number).services (rs.registeredIn number calls)⟩ := by
  induction calls generalizing rs with
  | nil => rfl
  | cons c calls ih =>
    have hstep := rs.does_call c
    rw [after_cons, ih (hstep.sound hrs), hstep.registry_eq hrs, registeredIn, Entries.override,
      Entries.override, ← List.foldl_append]
    rfl

/-- The last service registered under a name is looked up, and the default one otherwise. -/
theorem get_after (number : Nat) (key : String) (calls : List Call) :
    ((start.after calls).registry number).get key =
      (((start.registeredIn number calls).reverse.lookup key).or
        (Registry.default? number key)).elim (.error (.notRegistered key)) .ok := by
  have hstart : start.registry number = Registry.new number := by
    cases number with
    | zero => rfl
    | succ number => rfl
  rw [Registry.get_eq, registry_after sound_start, hstart, Entries.lookup_override,
    Registry.lookup_new]

/-! ### Other registries -/

/-- Says that two states agree in all but what the registry with the given number holds. -/
structure AgreeBut (number : Nat) (rs rs' : Registries) : Prop where
  current : rs'.current = rs.current
  global : rs'.global = rs.global
  length : rs'.registries.length = rs.registries.length
  registries : ∀ other, other ≠ number → rs'.registries[other]? = rs.registries[other]?

/-- To register a service changes the registry in use only. -/
theorem agreeBut_register (rs : Registries) (key : String) (service : Service) :
    AgreeBut rs.current rs (rs.register key service) where
  current := rfl
  global := rfl
  length := length_register rs key service
  registries other hother := by
    simp only [Registries.register, List.getElem?_modify_ne _ _ hother.symm]

/-- New registries are the same in both states. -/
theorem AgreeBut.makeNew {number : Nat} (h : AgreeBut number rs rs') :
    AgreeBut number rs.makeNew rs'.makeNew where
  current := h.length
  global := h.global
  length := by rw [length_makeNew, length_makeNew, h.length]
  registries other hother := by
    simp only [Registries.makeNew, List.getElem?_append, h.length, h.registries other hother]

/-- The same call keeps the agreement. -/
theorem AgreeBut.call {number : Nat} (h : AgreeBut number rs rs') (c : Call) :
    AgreeBut number (rs.call c).1 (rs'.call c).1 := by
  cases c with
  | makeNew => exact h.makeNew
  | useGlobal =>
    -- Either both have the same global registry, or both make one with the same number.
    cases hglobal : rs.global with
    | none =>
      have hglobal' := h.global.trans hglobal
      have hmade := h.makeNew
      rw [Registries.call, Registries.call, useGlobal_of_none hglobal, useGlobal_of_none hglobal']
      exact ⟨hmade.current, by rw [h.length], hmade.length, hmade.registries⟩
    | some number =>
      have hglobal' := h.global.trans hglobal
      rw [Registries.call, Registries.call, useGlobal_of_some hglobal, useGlobal_of_some hglobal']
      exact ⟨rfl, h.global, h.length, h.registries⟩
  | reset => exact ⟨h.current, rfl, h.length, h.registries⟩
  | register key service =>
    refine ⟨h.current, h.global, ?_, fun other hother => ?_⟩
    · simp only [Registries.call, length_register, h.length]
    · simp only [Registries.call, Registries.register, List.getElem?_modify, h.current,
        h.registries other hother]
  | get key => exact h
  | sharesFileSystem => exact h

/-- The same calls keep the agreement. -/
theorem AgreeBut.after {number : Nat} (h : AgreeBut number rs rs') (calls : List Call) :
    AgreeBut number (rs.after calls) (rs'.after calls) := by
  induction calls generalizing rs rs' with
  | nil => exact h
  | cons c calls ih => exact ih (h.call c)

/-! ### The global registry -/

/-- The number that asking for the global registry gives. -/
theorem global_useGlobal (rs : Registries) : rs.useGlobal.global = some rs.useGlobal.current := by
  cases hglobal : rs.global with
  | none =>
    rw [useGlobal_of_none hglobal]
    rfl
  | some number =>
    rw [useGlobal_of_some hglobal]
    exact hglobal

/-- The global registry stays until it is forgotten. -/
theorem Does.global_eq {number : Nat} (h : Does rs c rs') (hc : c ≠ .reset)
    (hglobal : rs.global = some number) : rs'.global = some number := by
  cases h with
  | makeGlobal hnone => rw [hglobal] at hnone; cases hnone
  | reset => exact absurd rfl hc
  | make | useGlobal | register | get | sharesFileSystem => exact hglobal

/-- The global registry stays the same until it is forgotten. -/
theorem global_after {number : Nat} {calls : List Call} (hcalls : .reset ∉ calls)
    (hglobal : rs.global = some number) : (rs.after calls).global = some number := by
  induction calls generalizing rs with
  | nil => exact hglobal
  | cons c calls ih =>
    have hc : c ≠ .reset := (List.ne_of_not_mem_cons hcalls).symm
    exact ih (List.not_mem_of_not_mem_cons hcalls) ((rs.does_call c).global_eq hc hglobal)

/-- Says that the registries below a number are not global, and that new ones do not get their
numbers. -/
structure Outdates (number : Nat) (rs : Registries) : Prop where
  global : ∀ current, rs.global = some current → number ≤ current
  length : number ≤ rs.registries.length

/-- A registry that is outdated is not made global by a call. -/
theorem Does.outdates {number : Nat} (h : Does rs c rs') (hrs : Outdates number rs) :
    Outdates number rs' := by
  refine ⟨?_, Nat.le_trans hrs.length h.length_le⟩
  cases h with
  | makeGlobal =>
    intro current hcurrent
    cases hcurrent
    exact hrs.length
  | reset =>
    intro current hcurrent
    cases hcurrent
  | make | useGlobal | register | get | sharesFileSystem => exact hrs.global

/-- Nor is it by any calls. -/
theorem Outdates.after {number : Nat} (h : Outdates number rs) (calls : List Call) :
    Outdates number (rs.after calls) := by
  induction calls generalizing rs with
  | nil => exact h
  | cons c calls ih => exact ih ((rs.does_call c).outdates h)

/-- The registry that is used as the global one is not outdated. -/
theorem Outdates.le_current {number : Nat} (h : Outdates number rs) :
    number ≤ rs.useGlobal.current :=
  ((rs.does_call .useGlobal).outdates h).global _ (global_useGlobal rs)

/-- No registry is ever lost. -/
theorem length_after (rs : Registries) (calls : List Call) :
    rs.registries.length ≤ (rs.after calls).registries.length := by
  induction calls generalizing rs with
  | nil => exact Nat.le_refl _
  | cons c calls ih => exact Nat.le_trans (rs.does_call c).length_le (ih (rs.call c).1)

/-- **The global registry is the same until it is forgotten.** -/
theorem current_useGlobal_iff (hrs : rs.Sound) (between : List Call) :
    (rs.useGlobal.after between).useGlobal.current = rs.useGlobal.current ↔ .reset ∉ between := by
  have hused : rs.useGlobal.Sound := (rs.does_call .useGlobal).sound hrs
  constructor
  · intro hsame hreset
    obtain ⟨front, back, rfl⟩ := List.append_of_mem hreset
    -- Behind the reset, the numbers of all registries so far are outdated.
    have hlength : rs.useGlobal.current < (rs.useGlobal.after front).registries.length :=
      Nat.lt_of_lt_of_le hused.current (length_after _ front)
    have hforgotten : Outdates (rs.useGlobal.after front).registries.length
        (rs.useGlobal.after front).reset := by
      refine ⟨fun current hcurrent => ?_, Nat.le_refl _⟩
      cases hcurrent
    have hlater := (hforgotten.after back).le_current
    rw [after_append, after_cons] at hsame
    rw [← hsame] at hlength
    exact absurd hlength (Nat.not_lt.mpr hlater)
  · intro hnever
    have hkept := global_after hnever (global_useGlobal rs)
    rw [useGlobal_of_some hkept]

/-! ### All together -/

/-- A registry that has been made is found by its number. -/
theorem registry_of_getElem? {number : Nat} {r : Registry} (h : rs.registries[number]? = some r) :
    rs.registry number = r := by
  rw [registry, List.getD_eq_getElem?_getD, h, Option.getD_some]

/-- Under a name that is not registered again, a registry keeps the service it was made with. -/
theorem get_after_default {number : Nat} {key : String} {service : Service} {calls : List Call}
    (hdefault : Registry.default? number key = some service)
    (h : key ∉ (start.registeredIn number calls).map Prod.fst) :
    ((start.after calls).registry number).get key = .ok service := by
  have hnone : (start.registeredIn number calls).reverse.lookup key = none := by
    apply Entries.lookup_eq_none_of_not_mem
    rwa [List.map_reverse, List.mem_reverse]
  rw [get_after, hnone, hdefault]
  rfl

/-- **A loader keeps its file service.**  Unless another one is registered, it has the file service
that its registry was made with, which it shares with the registry until another one is registered
there. -/
theorem sharesFileSystem_after {number : Nat} {calls : List Call}
    (hloader : Registry.ruleLoaderKey ∉ (start.registeredIn number calls).map Prod.fst) :
    ((start.after calls).registry number).sharesFileSystem =
      .ok (((start.registeredIn number calls).reverse.lookup Registry.fileSystemKey).getD
        (.fileSystem number) == .fileSystem number) := by
  have hkept : ((start.after calls).registry number).get Registry.ruleLoaderKey =
      .ok (.ruleLoader number) := get_after_default rfl hloader
  have hfiles := get_after number Registry.fileSystemKey calls
  have hdefault : Registry.default? number Registry.fileSystemKey = some (.fileSystem number) := rfl
  rw [hdefault, Option.or_some] at hfiles
  rw [Registry.sharesFileSystem, hkept, hfiles]
  rfl

/-- The loader shares the registered file service exactly if none is registered, unless its own one
is registered again. -/
theorem sharesFileSystem_after_iff {number : Nat} {calls : List Call}
    (hloader : Registry.ruleLoaderKey ∉ (start.registeredIn number calls).map Prod.fst)
    (hother : (Registry.fileSystemKey, .fileSystem number) ∉ start.registeredIn number calls) :
    ((start.after calls).registry number).sharesFileSystem = .ok true ↔
      Registry.fileSystemKey ∉ (start.registeredIn number calls).map Prod.fst := by
  rw [sharesFileSystem_after hloader, Except.ok.injEq, beq_iff_eq, ← List.mem_reverse,
    ← List.map_reverse]
  rw [← List.mem_reverse] at hother
  cases hlast : (start.registeredIn number calls).reverse.lookup Registry.fileSystemKey with
  | none =>
    rw [List.lookup_eq_none_iff] at hlast
    refine iff_of_true rfl fun hkey => ?_
    obtain ⟨entry, hentry, heq⟩ := List.mem_map.mp hkey
    simpa [heq] using hlast entry hentry
  | some service =>
    -- What was registered last is not the file service that the loader holds.
    obtain ⟨front, back, hlist, -⟩ := List.lookup_eq_some_iff.mp hlast
    rw [hlist] at hother ⊢
    refine iff_of_false ?_ (by simp)
    rintro rfl
    exact hother (by simp)

/-- Registering a service changes nothing but the registry in use, whatever follows. -/
theorem agreeBut_after_register (before later : List Call) (key : String) (service : Service) :
    AgreeBut (start.after before).current (start.after (before ++ later))
      (start.after (before ++ .register key service :: later)) := by
  rw [after_append, after_append]
  exact (agreeBut_register (start.after before) key service).after later

/-- **Registries are isolated.**  After any calls, a look-up in a registry finds what was registered
there last, or else what the registry was made with under one of five names, and it fails otherwise;
it changes nothing.  Registering a service changes no other registry, whether that has been made
already or not, and a new registry is none of those before.  The global registry is the same at two
times exactly if it is not forgotten between them.  A loader of rule files that is not registered
again keeps the file service that its registry was made with, and unless just that one is registered
again, it is the registered one exactly if none is registered. -/
theorem registries_isolated :
    (∀ (calls : List Call) (number : Nat) (r : Registry),
      (start.after calls).registries[number]? = some r →
        let registered := start.registeredIn number calls
        (∀ key, r.get key = ((registered.reverse.lookup key).or
          (Registry.default? number key)).elim (.error (.notRegistered key)) .ok) ∧
        (Registry.ruleLoaderKey ∉ registered.map Prod.fst →
          r.get Registry.ruleLoaderKey = .ok (.ruleLoader number) ∧
          r.sharesFileSystem = .ok ((registered.reverse.lookup Registry.fileSystemKey).getD
            (.fileSystem number) == .fileSystem number) ∧
          ((Registry.fileSystemKey, .fileSystem number) ∉ registered →
            (r.sharesFileSystem = .ok true ↔
              Registry.fileSystemKey ∉ registered.map Prod.fst)))) ∧
      (∀ (calls : List Call) (key : String), let rs := start.after calls
        rs.registries[rs.current]? = some rs.inUse ∧
          rs.call (.get key) = (rs, .service (rs.inUse.get key)) ∧
          rs.registries[(rs.call .makeNew).1.current]? = none) ∧
      (∀ (before later : List Call) (key : String) (service : Service),
        let rs := start.after (before ++ later)
        let rs' := start.after (before ++ .register key service :: later)
        rs'.current = rs.current ∧ rs'.global = rs.global ∧
          ∀ number, number ≠ (start.after before).current →
            rs'.registries[number]? = rs.registries[number]?) ∧
      ∀ before between : List Call,
        (start.after (before ++ .useGlobal :: (between ++ [.useGlobal]))).current =
          (start.after (before ++ [.useGlobal])).current ↔ .reset ∉ between := by
  refine ⟨?_, ?_, ?_, ?_⟩
  · intro calls number r hr
    obtain rfl := registry_of_getElem? hr
    refine ⟨fun key => get_after number key calls, fun hloader => ⟨?_, ?_, ?_⟩⟩
    · exact get_after_default rfl hloader
    · exact sharesFileSystem_after hloader
    · exact sharesFileSystem_after_iff hloader
  · intro calls key rs
    -- The number of the registry in use is that of a registry, after any calls.
    have hsound : rs.Sound := sound_start.after calls
    refine ⟨?_, rfl, List.getElem?_eq_none (Nat.le_refl _)⟩
    rw [inUse, List.getD_eq_getElem?_getD, List.getElem?_eq_getElem hsound.current,
      Option.getD_some]
  · intro before later key service
    have hagree := agreeBut_after_register before later key service
    exact ⟨hagree.current, hagree.global, hagree.registries⟩
  · intro before between
    have hglobal := current_useGlobal_iff (sound_start.after before) between
    simpa [call] using hglobal

/-- Services are registered in the first global registry, the second time when it has been forgotten
and is still in use.  The second global registry has none of them. -/
theorem registries_isolated_outdated :
    let calls : List Call := [.useGlobal, .register "k" (.custom "v"), .reset,
      .register Registry.fileSystemKey (.custom "f"), .useGlobal]
    let rs := start.after calls
    rs.registries[1]? = some (rs.registry 1) ∧ rs.registries[2]? = some (rs.registry 2) ∧
      (rs.registry 1).get "k" = .ok (.custom "v") ∧
      (rs.registry 1).sharesFileSystem ≠ .ok true ∧
      (rs.registry 2).get "k" = .error (.notRegistered "k") ∧
      (rs.registry 2).sharesFileSystem = .ok true ∧
      rs.current ≠ (start.after [.useGlobal]).current := by
  intro calls rs
  have hfirst : rs.registries[1]? = some (rs.registry 1) := rfl
  have hsecond : rs.registries[2]? = some (rs.registry 2) := rfl
  obtain ⟨hlook, -, -, hglobal⟩ := registries_isolated
  obtain ⟨hget, hloader⟩ := hlook calls 1 _ hfirst
  obtain ⟨hget', hloader'⟩ := hlook calls 2 _ hsecond
  obtain ⟨-, -, hshares⟩ := hloader (by decide)
  obtain ⟨-, -, hshares'⟩ := hloader' (by decide)
  refine ⟨hfirst, hsecond, hget "k", ?_, hget' "k", ?_, ?_⟩
  · rw [ne_eq, hshares (by decide)]
    decide
  · rw [hshares' (by decide)]
    decide
  · exact fun hsame => absurd ((hglobal [] (calls.tail.take 3)).mp hsame) (by decide)

/-- A registry's own file service is registered again.  The loader still shares it, although its
name has been registered. -/
theorem own_fileSystem_registered_again :
    let calls : List Call := [.register Registry.fileSystemKey (.fileSystem 0)]
    let rs := start.after calls
    let registered := (start.registeredIn 0 calls).map Prod.fst
    rs.registries[0]? = some (rs.registry 0) ∧ Registry.ruleLoaderKey ∉ registered ∧
      Registry.fileSystemKey ∈ registered ∧ (rs.registry 0).sharesFileSystem = .ok true := by
  intro calls rs registered
  exact ⟨rfl, by decide, by decide, rfl⟩

end Registries

end AttrLint
