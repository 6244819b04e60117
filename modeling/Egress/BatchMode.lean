/-!
When frames go out: at once, or together with later ones.
-/
namespace Egress

/-- Whether a frame is written at once or may wait for later ones. -/
inductive BatchMode where
  /-- Every frame is written at once. -/
  | off
  /-- Frames wait for a flush. -/
  | on
  /-- The carrier decides. -/
  | auto
  deriving DecidableEq

namespace BatchMode

def keyword : BatchMode → String
  | .off => "off"
  | .on => "on"
  | .auto => "auto"

def name : BatchMode → String
  | .off => "Off"
  | .on => "On"
  | .auto => "Auto"

def all : List BatchMode := [.off, .on, .auto]

def ofKeyword? (keyword : String) : Option BatchMode := all.find? (·.keyword = keyword)

end BatchMode
end Egress
