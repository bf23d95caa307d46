/-!
# Faults

A fault tells why something could not be read: what was being done, from the whole
task down to its smallest part, and which layer underneath refused its input.

## Main definitions

* `Layer` — the layers that refuse input on grounds of their own.
* `Fault` — the contexts of a fault and the layer it began in.
* `Fault.within` — the fault inside a larger task.
-/

namespace ConsoleReplay

/-- The layers that refuse input on grounds of their own. -/
inductive Layer
  /-- A file is not there, or its bytes are no text. -/
  | storage
  /-- A text is no JSON, or no record of the kind that was asked for. -/
  | json
  /-- A text is no TOML, or no settings. -/
  | toml
  deriving DecidableEq, Repr

/-- Why something could not be read: the tasks that failed, from the whole one down, and the layer
underneath where it began.  What that layer says of its own accord is not part of it. -/
structure Fault where
  /-- What was being done, the whole task first. -/
  contexts : List String
  /-- The layer underneath that refused its input, if it was one. -/
  layer : Option Layer
  deriving DecidableEq, Repr

namespace Fault

/-- A fault of the program's own. -/
def of (context : String) : Fault := ⟨[context], none⟩

/-- A fault that began in a layer underneath. -/
def below (context : String) (layer : Layer) : Fault := ⟨[context], some layer⟩

/-- The fault inside a larger task. -/
def within (context : String) (fault : Fault) : Fault :=
  { fault with contexts := context :: fault.contexts }

/-- The whole task that failed. -/
def headline (fault : Fault) : String := fault.contexts.headD ""

end Fault

end ConsoleReplay
