namespace Daybook.Text

/-- A text with a line end after it. -/
def line (text : String) : String :=
  text ++ "\n"

def lines (texts : List String) : String :=
  String.join (texts.map line)

end Daybook.Text
