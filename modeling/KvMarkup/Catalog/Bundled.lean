import KvMarkup.Catalog.Basic

/-!
# The bundled catalogue

The Kivy widget types, each with its base types and the properties that it declares itself, and the
parameters of the drawing instructions.
-/

namespace KvMarkup.Catalog

/-- A widget type whose names are texts. -/
def widgetNamed (name : String) (bases : List String) (properties : List (String × String)) :
    WidgetType :=
  ⟨.str name, bases.map .str, properties⟩

/-- A drawing instruction whose name is a text. -/
def instructionNamed (name : String) (parameters : List (String × String)) : InstructionType :=
  ⟨.str name, parameters⟩

def bundledWidgets : List WidgetType :=
  [widgetNamed "Widget" []
     [("cls", "ListProperty"), ("center_x", "AliasProperty"), ("center_y", "AliasProperty"),
      ("children", "ListProperty"), ("disabled", "AliasProperty"), ("height", "NumericProperty"),
      ("ids", "DictProperty"), ("motion_filter", "DictProperty"), ("opacity", "NumericProperty"),
      ("parent", "ObjectProperty"), ("pos", "ReferenceListProperty"),
      ("pos_hint", "ObjectProperty"), ("right", "AliasProperty"),
      ("size", "ReferenceListProperty"), ("size_hint", "ReferenceListProperty"),
      ("size_hint_max", "ReferenceListProperty"), ("size_hint_min", "ReferenceListProperty"),
      ("size_hint_x", "NumericProperty"), ("size_hint_y", "NumericProperty"),
      ("top", "AliasProperty"), ("width", "NumericProperty"), ("x", "NumericProperty"),
      ("y", "NumericProperty")],
   widgetNamed "ButtonBehavior" []
     [("always_release", "BooleanProperty"), ("last_touch", "ObjectProperty"),
      ("min_state_time", "NumericProperty"), ("state", "OptionProperty")],
   widgetNamed "ToggleButtonBehavior" ["ButtonBehavior"]
     [("allow_no_selection", "BooleanProperty"), ("group", "ObjectProperty")],
   widgetNamed "FocusBehavior" []
     [("focus", "BooleanProperty"), ("focus_next", "ObjectProperty"),
      ("focus_previous", "ObjectProperty"), ("keyboard_mode", "OptionProperty"),
      ("unfocus_on_touch", "BooleanProperty")],
   widgetNamed "DragBehavior" []
     [("drag_distance", "NumericProperty"), ("drag_rectangle", "ReferenceListProperty"),
      ("drag_timeout", "NumericProperty")],
   widgetNamed "Label" ["Widget"]
     [("bold", "BooleanProperty"), ("color", "ColorProperty"),
      ("disabled_color", "ColorProperty"), ("font_name", "StringProperty"),
      ("font_size", "NumericProperty"), ("halign", "OptionProperty"),
      ("italic", "BooleanProperty"), ("line_height", "NumericProperty"),
      ("markup", "BooleanProperty"), ("max_lines", "NumericProperty"),
      ("outline_color", "ColorProperty"), ("outline_width", "NumericProperty"),
      ("padding", "VariableListProperty"), ("shorten", "BooleanProperty"),
      ("text", "StringProperty"), ("text_size", "ListProperty"),
      ("texture_size", "ListProperty"), ("valign", "OptionProperty")],
   widgetNamed "Button" ["ButtonBehavior", "Label"]
     [("background_color", "ColorProperty"), ("background_disabled_down", "StringProperty"),
      ("background_disabled_normal", "StringProperty"), ("background_down", "StringProperty"),
      ("background_normal", "StringProperty"), ("border", "ListProperty")],
   widgetNamed "ToggleButton" ["ToggleButtonBehavior", "Button"]
     [],
   widgetNamed "Image" ["Widget"]
     [("allow_stretch", "BooleanProperty"), ("anim_delay", "NumericProperty"),
      ("color", "ColorProperty"), ("fit_mode", "OptionProperty"),
      ("keep_ratio", "BooleanProperty"), ("mipmap", "BooleanProperty"),
      ("nocache", "BooleanProperty"), ("source", "StringProperty"),
      ("texture", "ObjectProperty")],
   widgetNamed "TextInput" ["FocusBehavior", "Widget"]
     [("background_color", "ColorProperty"), ("cursor_color", "ColorProperty"),
      ("font_size", "NumericProperty"), ("foreground_color", "ColorProperty"),
      ("hint_text", "AliasProperty"), ("hint_text_color", "ColorProperty"),
      ("input_filter", "ObjectProperty"), ("multiline", "BooleanProperty"),
      ("password", "BooleanProperty"), ("readonly", "BooleanProperty"),
      ("selection_color", "ColorProperty"), ("text", "AliasProperty"),
      ("write_tab", "BooleanProperty")],
   widgetNamed "CheckBox" ["ToggleButtonBehavior", "Widget"]
     [("active", "BooleanProperty"), ("color", "ColorProperty")],
   widgetNamed "Switch" ["Widget"]
     [("active", "BooleanProperty")],
   widgetNamed "Slider" ["Widget"]
     [("max", "NumericProperty"), ("min", "NumericProperty"), ("orientation", "OptionProperty"),
      ("step", "BoundedNumericProperty"), ("value", "NumericProperty"),
      ("value_track", "BooleanProperty"), ("value_track_color", "ColorProperty")],
   widgetNamed "ProgressBar" ["Widget"]
     [("max", "NumericProperty"), ("value", "AliasProperty")],
   widgetNamed "Spinner" ["Button"]
     [("is_open", "BooleanProperty"), ("sync_height", "BooleanProperty"),
      ("text_autoupdate", "BooleanProperty"), ("values", "ListProperty")],
   widgetNamed "Layout" ["Widget"]
     [],
   widgetNamed "BoxLayout" ["Layout"]
     [("minimum_height", "NumericProperty"), ("minimum_size", "ReferenceListProperty"),
      ("minimum_width", "NumericProperty"), ("orientation", "OptionProperty"),
      ("padding", "VariableListProperty"), ("spacing", "NumericProperty")],
   widgetNamed "GridLayout" ["Layout"]
     [("col_default_width", "NumericProperty"), ("col_force_default", "BooleanProperty"),
      ("cols", "BoundedNumericProperty"), ("padding", "VariableListProperty"),
      ("row_default_height", "NumericProperty"), ("row_force_default", "BooleanProperty"),
      ("rows", "BoundedNumericProperty"), ("spacing", "VariableListProperty")],
   widgetNamed "StackLayout" ["Layout"]
     [("orientation", "OptionProperty"), ("padding", "VariableListProperty"),
      ("spacing", "VariableListProperty")],
   widgetNamed "AnchorLayout" ["Layout"]
     [("anchor_x", "OptionProperty"), ("anchor_y", "OptionProperty"),
      ("padding", "VariableListProperty")],
   widgetNamed "FloatLayout" ["Layout"]
     [],
   widgetNamed "RelativeLayout" ["FloatLayout"]
     [],
   widgetNamed "PageLayout" ["Layout"]
     [("anim_kwargs", "DictProperty"), ("border", "NumericProperty"),
      ("page", "NumericProperty"), ("swipe_threshold", "NumericProperty")],
   widgetNamed "Scatter" ["Widget"]
     [("do_rotation", "BooleanProperty"), ("do_scale", "BooleanProperty"),
      ("do_translation", "AliasProperty"), ("rotation", "AliasProperty"),
      ("scale", "AliasProperty"), ("scale_max", "NumericProperty"),
      ("scale_min", "NumericProperty")],
   widgetNamed "ScatterLayout" ["Scatter"]
     [],
   widgetNamed "ScrollView" ["Widget"]
     [("bar_color", "ColorProperty"), ("bar_width", "NumericProperty"),
      ("do_scroll_x", "BooleanProperty"), ("do_scroll_y", "BooleanProperty"),
      ("effect_cls", "ObjectProperty"), ("scroll_type", "OptionProperty"),
      ("scroll_x", "NumericProperty"), ("scroll_y", "NumericProperty")],
   widgetNamed "Carousel" ["Widget"]
     [("anim_move_duration", "NumericProperty"), ("direction", "OptionProperty"),
      ("index", "AliasProperty"), ("loop", "BooleanProperty")],
   widgetNamed "Screen" ["RelativeLayout"]
     [("manager", "ObjectProperty"), ("name", "StringProperty")],
   widgetNamed "ScreenManager" ["FloatLayout"]
     [("current", "StringProperty"), ("screen_names", "AliasProperty"),
      ("transition", "ObjectProperty")],
   widgetNamed "TabbedPanel" ["GridLayout"]
     [("default_tab_text", "StringProperty"), ("do_default_tab", "BooleanProperty"),
      ("tab_height", "NumericProperty"), ("tab_pos", "OptionProperty"),
      ("tab_width", "NumericProperty")],
   widgetNamed "Accordion" ["Widget"]
     [("anim_duration", "NumericProperty"), ("min_space", "NumericProperty"),
      ("orientation", "OptionProperty")],
   widgetNamed "ModalView" ["AnchorLayout"]
     [("auto_dismiss", "BooleanProperty"), ("background_color", "ColorProperty"),
      ("overlay_color", "ColorProperty")],
   widgetNamed "Popup" ["ModalView"]
     [("content", "ObjectProperty"), ("separator_color", "ColorProperty"),
      ("title", "StringProperty"), ("title_align", "OptionProperty"),
      ("title_color", "ColorProperty"), ("title_size", "NumericProperty")],
   widgetNamed "Video" ["Image"]
     [("duration", "NumericProperty"), ("position", "NumericProperty"),
      ("state", "OptionProperty"), ("volume", "NumericProperty")],
   widgetNamed "Camera" ["Image"]
     [("index", "NumericProperty"), ("play", "BooleanProperty"), ("resolution", "ListProperty")],
   widgetNamed "FileChooser" ["Layout"]
     [("dirselect", "BooleanProperty"), ("filters", "ListProperty"),
      ("multiselect", "BooleanProperty"), ("path", "StringProperty"),
      ("selection", "ListProperty")]]

def bundledInstructions : List InstructionType :=
  [instructionNamed "Color"
     [("a", "float"), ("b", "float"), ("g", "float"), ("h", "float"), ("r", "float"),
      ("rgb", "color"), ("rgba", "color"), ("s", "float"), ("v", "float")],
   instructionNamed "Rectangle"
     [("pos", "position"), ("size", "size"), ("source", "string"), ("texture", "texture")],
   instructionNamed "Ellipse"
     [("angle_end", "float"), ("angle_start", "float"), ("pos", "position"), ("segments", "int"),
      ("size", "size"), ("source", "string")],
   instructionNamed "Line"
     [("bezier", "points"), ("cap", "string"), ("circle", "tuple"), ("close", "bool"),
      ("ellipse", "tuple"), ("joint", "string"), ("points", "points"), ("rectangle", "tuple"),
      ("rounded_rectangle", "tuple"), ("width", "float")],
   instructionNamed "Point"
     [("pointsize", "float"), ("points", "points")],
   instructionNamed "Mesh"
     [("indices", "list"), ("mode", "string"), ("vertices", "list")],
   instructionNamed "Triangle"
     [("points", "points")],
   instructionNamed "Quad"
     [("points", "points")],
   instructionNamed "Bezier"
     [("dash_length", "int"), ("dash_offset", "int"), ("points", "points"), ("segments", "int")],
   instructionNamed "Scale"
     [("origin", "position"), ("x", "float"), ("xyz", "tuple"), ("y", "float"), ("z", "float")],
   instructionNamed "Rotate"
     [("angle", "float"), ("axis", "tuple"), ("origin", "position")],
   instructionNamed "Translate"
     [("x", "float"), ("xy", "tuple"), ("y", "float"), ("z", "float")],
   instructionNamed "PushMatrix"
     [],
   instructionNamed "PopMatrix"
     [],
   instructionNamed "StencilPush"
     [],
   instructionNamed "StencilPop"
     [],
   instructionNamed "StencilUse"
     [("op", "string")],
   instructionNamed "StencilUnUse"
     []]

def bundled : Catalog := ⟨bundledWidgets, bundledInstructions⟩

end KvMarkup.Catalog
