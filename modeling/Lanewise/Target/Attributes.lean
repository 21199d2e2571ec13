import Lanewise.Target.Basic

namespace Lanewise

abbrev AttributeMap := List (String × String)

namespace AttributeMap

def insert (map : AttributeMap) (key value : String) : AttributeMap :=
  match map with
  | [] => [(key, value)]
  | entry :: rest =>
      if key < entry.1 then (key, value) :: entry :: rest
      else if key = entry.1 then (key, value) :: rest
      else entry :: insert rest key value

def addAll (map : AttributeMap) (attributes : List (String × String)) : AttributeMap :=
  attributes.foldl (fun map entry => map.insert entry.1 entry.2) map

end AttributeMap

def Target.addAttributes (target : Target) (limitZmm : Bool) (map : AttributeMap) : AttributeMap :=
  map.addAll (target.attributeList limitZmm)

end Lanewise
