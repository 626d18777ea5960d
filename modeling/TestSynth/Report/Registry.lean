import TestSynth.Report.Document
import TestSynth.Report.JUnit

/-!
# Registries of formatters

Formatters are made by factories, which are registered by name.  The factory
that was registered last under a name is the one used.
-/

namespace TestSynth

/-- Makes a formatter for a configuration. -/
abbrev Factory := Config → Except Fault Formatter

/-- The factories by name, at most one each.  Nothing depends on their order. -/
structure Registry where
  entries : List (String × Factory)
  distinct : (entries.map (·.1)).Nodup

namespace Registry

def empty : Registry :=
  { entries := []
    distinct := List.nodup_nil }

/-- The entries with a factory under a name; one of the same name is replaced. -/
def insertFactory (name : String) (factory : Factory) (entries : List (String × Factory)) :
    List (String × Factory) :=
  entries.filter (·.1 != name) ++ [(name, factory)]

theorem distinct_insertFactory {entries : List (String × Factory)}
    (distinct : (entries.map (·.1)).Nodup) (name : String) (factory : Factory) :
    ((insertFactory name factory entries).map (·.1)).Nodup := by
  rw [insertFactory, List.map_append, List.nodup_append]
  refine ⟨distinct.sublist (List.filter_sublist.map _), by simp, ?_⟩
  rintro key kept other new rfl
  rw [List.map_singleton, List.mem_singleton] at new
  subst new
  obtain ⟨entry, member, rfl⟩ := List.mem_map.mp kept
  exact bne_iff_ne.mp (List.mem_filter.mp member).2 rfl

def register (registry : Registry) (name : String) (factory : Factory) : Registry :=
  { entries := insertFactory name factory registry.entries
    distinct := distinct_insertFactory registry.distinct name factory }

def factory? (registry : Registry) (name : String) : Option Factory :=
  (registry.entries.find? (·.1 == name)).map (·.2)

def contains (registry : Registry) (name : String) : Bool :=
  (registry.factory? name).isSome

/-- The registered names, sorted. -/
def names (registry : Registry) : List String :=
  (registry.entries.map (·.1)).mergeSort

/-- Makes the formatter that a configuration names. -/
def create (registry : Registry) (config : Config) : Except Fault Formatter :=
  match registry.factory? config.formatter with
  | some factory => factory config
  | none => .error (.unknownFormatter config.formatter)

/-- The registry of the formatters of this library. -/
def builtin : Registry :=
  ((empty.register "junit5" fun config => .ok (JUnit.formatter .junit5 config)).register
    "junit4" fun config => .ok (JUnit.formatter .junit4 config)).register
    "json" fun config => .ok (Document.formatter config)

end Registry

/-- Registries and the handles on one of them.  A handle refers to a registry by its
place, so what is registered through one handle is known to all that refer to the same
place. -/
structure SharedRegistry where
  registries : List Registry
  /-- The place that each handle refers to. -/
  handles : List Nat

namespace SharedRegistry

/-- A registry that is added to others, with the first handle on it. -/
def opened (others : List Registry) (registry : Registry) : SharedRegistry :=
  { registries := others ++ [registry], handles := [others.length] }

/-- One handle on a registry. -/
def ofRegistry (registry : Registry) : SharedRegistry :=
  opened [] registry

/-- One more handle, which refers to what a given handle refers to. -/
def clone (shared : SharedRegistry) (handle : Nat) : SharedRegistry :=
  { shared with handles := shared.handles ++ shared.handles[handle]?.toList }

/-- The registry as a handle sees it, if there is such a handle. -/
def view? (shared : SharedRegistry) (handle : Nat) : Option Registry := do
  let place ← shared.handles[handle]?
  shared.registries[place]?

/-- Registers a factory through a handle. -/
def register (shared : SharedRegistry) (handle : Nat) (name : String) (factory : Factory) :
    SharedRegistry :=
  match shared.handles[handle]? with
  | some place =>
      { shared with registries := shared.registries.modify place (·.register name factory) }
  | none => shared

end SharedRegistry

end TestSynth
