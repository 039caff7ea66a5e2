/-! Sample documents: sections that each list the same number of scalars. -/
namespace TabMarkup.Sample

def item (section_ item : Nat) : String :=
  "\t<entry value=\"" ++ toString section_ ++ "-" ++ toString item ++ "\" />\n"

def writeSection (items : Nat) (out : String) (n : Nat) : String :=
  let opened := out ++ "<entries id=\"" ++ toString n ++ "\">\n"
  (List.range items).foldl (fun out i => out ++ item n i) opened ++ "</entries>\n"

def text (sections items : Nat) : String :=
  (List.range sections).foldl (writeSection items)
    "<!DOCTYPE skd default>\n<!SKD version=\"0.2\">\n\n"

end TabMarkup.Sample
