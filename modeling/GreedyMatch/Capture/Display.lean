import GreedyMatch.Capture.Basic
import GreedyMatch.Text.Quoted

set_option autoImplicit false

namespace GreedyMatch.Capture

mutual

def written : Capture → List Char
  | .leaf text => Text.Quoted.encode '"' text.toList
  | .group items => '[' :: writtenItems items ++ [']']

def writtenItems : List Capture → List Char
  | [] => []
  | item :: items => item.written ++ writtenRest items

def writtenRest : List Capture → List Char
  | [] => []
  | item :: items => ',' :: ' ' :: item.written ++ writtenRest items

end

def display (capture : Capture) : String := String.ofList capture.written

end GreedyMatch.Capture
