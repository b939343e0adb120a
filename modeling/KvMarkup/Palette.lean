/-!
# The palette

Widgets that can be dropped into a document, by category.  Each snippet ends with the mark where the
cursor would go.
-/

namespace KvMarkup

structure PaletteEntry where
  name : String
  category : String
  snippet : String
deriving DecidableEq

namespace Palette

def all : List PaletteEntry :=
  [⟨"BoxLayout", "Layouts", "BoxLayout:\n    orientation: \"vertical\"\n    $0"⟩,
   ⟨"GridLayout", "Layouts", "GridLayout:\n    cols: 2\n    $0"⟩,
   ⟨"StackLayout", "Layouts", "StackLayout:\n    orientation: \"lr-tb\"\n    $0"⟩,
   ⟨"AnchorLayout", "Layouts",
     "AnchorLayout:\n    anchor_x: \"center\"\n    anchor_y: \"center\"\n    $0"⟩,
   ⟨"FloatLayout", "Layouts", "FloatLayout:\n    $0"⟩,
   ⟨"RelativeLayout", "Layouts", "RelativeLayout:\n    $0"⟩,
   ⟨"PageLayout", "Layouts", "PageLayout:\n    $0"⟩,
   ⟨"ScatterLayout", "Layouts", "ScatterLayout:\n    $0"⟩,
   ⟨"Label", "Widgets", "Label:\n    text: \"Hello World\"\n    $0"⟩,
   ⟨"Button", "Widgets", "Button:\n    text: \"Click Me\"\n    on_press: $0"⟩,
   ⟨"Image", "Widgets", "Image:\n    source: \"path/to/image.png\"\n    $0"⟩,
   ⟨"TextInput", "Widgets", "TextInput:\n    text: \"\"\n    multiline: False\n    $0"⟩,
   ⟨"Slider", "Widgets", "Slider:\n    min: 0\n    max: 100\n    value: 50\n    $0"⟩,
   ⟨"ProgressBar", "Widgets", "ProgressBar:\n    value: 50\n    max: 100\n    $0"⟩,
   ⟨"CheckBox", "Widgets", "CheckBox:\n    active: False\n    $0"⟩,
   ⟨"Switch", "Widgets", "Switch:\n    active: False\n    $0"⟩,
   ⟨"ToggleButton", "Widgets",
     "ToggleButton:\n    text: \"Toggle\"\n    state: \"normal\"\n    $0"⟩,
   ⟨"Spinner", "Widgets", "Spinner:\n    text: \"Select\"\n    values: []\n    $0"⟩,
   ⟨"ScrollView", "Containers", "ScrollView:\n    $0"⟩,
   ⟨"Carousel", "Containers", "Carousel:\n    direction: \"right\"\n    $0"⟩,
   ⟨"ScreenManager", "Containers", "ScreenManager:\n    $0"⟩,
   ⟨"TabbedPanel", "Containers", "TabbedPanel:\n    do_default_tab: False\n    $0"⟩,
   ⟨"Accordion", "Containers", "Accordion:\n    $0"⟩,
   ⟨"Video", "Media", "Video:\n    source: \"path/to/video.mp4\"\n    $0"⟩,
   ⟨"Camera", "Media", "Camera:\n    resolution: (640, 480)\n    $0"⟩,
   ⟨"FileChooser", "Dialogs", "FileChooser:\n    $0"⟩,
   ⟨"Popup", "Dialogs", "Popup:\n    title: \"Popup\"\n    size_hint: (0.8, 0.8)\n    $0"⟩]

/-- The categories, in the order in which they first appear. -/
def categories : List String := (all.map (·.category)).eraseDups

/-- The widgets of a category, or all of them. -/
def entries (category : Option String) : List PaletteEntry :=
  match category with
  | none => all
  | some c => all.filter (·.category == c)

def find? (name : String) : Option PaletteEntry := all.find? (·.name == name)

end Palette

end KvMarkup
