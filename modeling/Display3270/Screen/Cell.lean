import Display3270.Screen.Color
import Display3270.Screen.Rendition

namespace Display3270

structure Cell where
  content : String
  fg : Color
  bg : Color
  gr : Rendition
  deriving DecidableEq

namespace Cell

def blank (fg bg : Color) : Cell := ⟨" ", fg, bg, .empty⟩

instance : Inhabited Cell := ⟨blank .defaultForeground .defaultBackground⟩

def isBlank (c : Cell) : Bool := c.content == " "

def repaint (c : Cell) (fg bg : Option Color) (gr : Option Rendition) : Cell :=
  ⟨c.content, fg.getD c.fg, bg.getD c.bg, gr.getD c.gr⟩

def write (c : Cell) (content : String) : Cell :=
  ⟨content, c.fg, c.bg, c.gr⟩

end Cell

end Display3270
