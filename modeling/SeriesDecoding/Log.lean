import SeriesDecoding.Document.Basic

namespace SeriesDecoding

-- A logged warning: the logger's name, the message and extra named fields. Everything the library
-- logs is a warning.
structure LogEntry where
  logger : Text
  message : Text
  extra : List (String × Document)

def LogEntry.level : String := "WARNING"

namespace Logger

-- The root under which every logger name lives.
def root : Text := "promresults"

-- The logger name for a requested name: the root for none, the empty name or the root itself, a
-- name under the root as it is, and any other name placed below the root.
def qualify : Option Text → Text
  | none => root
  | some n =>
    if n.points.isEmpty || n == root then root
    else if n.startsWith (root ++ ".") then n
    else root ++ "." ++ n

end Logger

end SeriesDecoding
