import UtilityCss.Pattern.Escape
import UtilityCss.Platform.Room
import UtilityCss.Template.Fill

/-!
# Platform

What the library relies on and does not settle itself: the names of characters, what the attributes
of the values are that templates are filled with, and the room that a machine has.
-/

namespace UtilityCss

/-- What the library runs on. -/
class Platform extends Pattern.Names, Template.Objects, Room

end UtilityCss
