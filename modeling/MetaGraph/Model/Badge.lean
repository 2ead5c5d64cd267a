/-
Badges attached to a node, usually a table or a column.
-/
import MetaGraph.Graph.Cursor
import MetaGraph.Model.Field

namespace MetaGraph

/-- A badge and the category it belongs to. -/
structure Badge where
  name : String
  category : String
deriving DecidableEq, Repr

/-- The badges of one node. -/
structure BadgeSet where
  startLabel : String
  startKey : String
  badges : List Badge
deriving DecidableEq, Repr

namespace Badge

def shape : Shape Badge :=
  Shape.done mk
    |>.required "name" Decoder.string
    |>.required "category" Decoder.string

def node (b : Badge) : Node := ({ key := b.name, label := "Badge" } : Node).withText "category" b.category

end Badge

namespace BadgeSet

def shape : Shape BadgeSet :=
  Shape.done mk
    |>.required "start_label" Field.string
    |>.required "start_key" Field.string
    |>.optional "badges" (Decoder.list (Badge.shape.decoder "struct Badge")) []

def relation (s : BadgeSet) (b : Badge) : Relation where
  startLabel := s.startLabel
  startKey := s.startKey
  endLabel := "Badge"
  endKey := b.name
  kind := "HAS_BADGE"
  reverseKind := "BADGE_FOR"

/-- A node for every badge, and a relation from the badged node to it. -/
def elements (s : BadgeSet) : Cursor := ⟨s.badges.map Badge.node, s.badges.map s.relation⟩

end BadgeSet

end MetaGraph
