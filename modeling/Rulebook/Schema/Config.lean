import Rulebook.Predicate.Registry
import Rulebook.Message.English

/-!
What a schema is compiled and reported with: predicates, messages, and where messages are looked up.
-/

namespace Rulebook

structure Config where
  predicates : Registry
  messages : MessageTable
  scope : Option String
  locale : String

namespace Config

/-- The standard predicates with English messages. -/
def default : Config := ⟨.standard, .english, none, defaultLocale⟩

def withScope (c : Config) (scope : Option String) : Config := { c with scope }

def withLocale (c : Config) (locale : String) : Config := { c with locale }

/-- The configuration with its messages overridden by those of a table. -/
def withMessages (c : Config) (t : MessageTable) : Config :=
  { c with messages := c.messages.merge t }

def withPredicates (c : Config) (predicates : Registry) : Config := { c with predicates }

/-- Whether two configurations say the same. -/
def same (a b : Config) : Bool :=
  a.predicates.sameContents b.predicates && a.messages.sameContents b.messages
    && a.scope = b.scope && a.locale = b.locale

end Config
end Rulebook
