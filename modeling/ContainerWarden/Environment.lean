import ContainerWarden.Number.Reading

namespace ContainerWarden

abbrev Environment := List (String × String)

namespace Environment

def text (env : Environment) (name default : String) : String :=
  (env.lookup name).getD default

def affirmatives : List String := ["1", "true", "yes", "y", "on"]

/-- An unset switch has its default; a set one is on exactly when it holds an affirmative word. -/
def readSwitch (raw : Option String) (default : Bool) : Bool :=
  match raw with
  | none => default
  | some s => affirmatives.contains (String.ofList ((Text.trim Text.isBlank s.toList).map Char.toLower))

def readOr (read? : String → Option α) (raw : Option String) (default : α) : α :=
  (raw.bind read?).getD default

def readInt : Option String → Int → Int := readOr Number.readInt?

def readFloat : Option String → Float → Float := readOr Number.readFloat?

def switch (env : Environment) (name : String) (default : Bool) : Bool :=
  readSwitch (env.lookup name) default

def int (env : Environment) (name : String) (default : Int) : Int :=
  readInt (env.lookup name) default

def float (env : Environment) (name : String) (default : Float) : Float :=
  readFloat (env.lookup name) default

end Environment

end ContainerWarden
