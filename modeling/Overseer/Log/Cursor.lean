/-
Overseer.Log.Cursor — reading output as it grows.

A cursor belongs to one reader. Its first call gives the most recent lines or
starts at the oldest one; every later call gives only lines with numbers above
the highest one given before, the watermark. A first call that finds nothing
puts the watermark to 0, so that the next one gives every line.
-/
import Overseer.Store.Output

namespace Overseer.Log

/-- A reader's place in the output. -/
structure Cursor where
  selector : Selector
  limit : Option Int
  tail : Bool
  watermark : Option Int
deriving DecidableEq

namespace Cursor

/-- A cursor whose first call gives the most recent lines. -/
def tailing (selector : Selector) (limit : Option Int) : Cursor := ⟨selector, limit, true, none⟩

/-- A cursor that starts at the oldest line. -/
def fromStart (selector : Selector) (limit : Option Int) : Cursor := ⟨selector, limit, false, none⟩

/-- What the next call asks for. -/
def query (c : Cursor) (limit : Option Int) : OutputQuery where
  selector := c.selector
  since := none
  after := c.watermark
  limit := limit
  newest := c.watermark.isNone && c.tail

/-- The highest number among lines and watermark; 0 if there is neither. -/
def advanced (watermark : Option Int) (rows : List LogRecord) : Int :=
  (rows.map (·.id)).foldl max (watermark.getD 0)

/-- Lines not given before, within a limit. -/
def nextWith (c : Cursor) (s : Store) (limit : Option Int) :
    Except StoreFault (List LogRecord × Cursor) := do
  let rows ← s.query (c.query limit)
  return (rows, { c with watermark := some (advanced c.watermark rows) })

/-- Lines not given before, within the cursor's own limit. -/
def next (c : Cursor) (s : Store) : Except StoreFault (List LogRecord × Cursor) :=
  c.nextWith s c.limit

end Cursor

end Overseer.Log
