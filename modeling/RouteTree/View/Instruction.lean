import RouteTree.Navigation.Options

namespace RouteTree

/-- What a view asks of its router, always with a location that is already
composed. Elements are shown, the last two are carried out. -/
inductive Instruction (Props : Type) where
  | link (location : String) (props : Props)
  | navLink (location : String) (props : Props)
  | navigateElement (location : String) (options : NavigateOptions)
  | form (location : String) (props : Props)
  | navigate (location : String) (options : NavigateOptions)
  | submit (data : Json) (location : String) (options : SubmitOptions)
deriving Repr

namespace Instruction

variable {Props : Type}

/-- Where an instruction leads. -/
def location : Instruction Props → String
  | link location _ => location
  | navLink location _ => location
  | navigateElement location _ => location
  | form location _ => location
  | navigate location _ => location
  | submit _ location _ => location

end Instruction

end RouteTree
