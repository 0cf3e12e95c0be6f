import Rulebook.Message.Table

/-!
The English messages of the standard predicates.
-/

namespace Rulebook

/-- The locale that is asked when the requested one has no message. -/
def defaultLocale : String := "en"

namespace English

/-- The key of a predicate's general message. -/
def key (predicate : String) (valueType argumentType : Option String) : MessageKey :=
  ⟨defaultLocale, none, none, predicate, valueType, argumentType⟩

/-- The messages that do not depend on types. -/
def general : List (String × String) :=
  [("array?", "must be an array"),
    ("empty?", "cannot be empty"),
    ("exclusion?", "must not be one of: %\x7blist\x7d"),
    ("eql?", "must be equal to %\x7bleft\x7d"),
    ("filled?", "must be filled"),
    ("format?", "is in invalid format"),
    ("gt?", "must be greater than %\x7bnum\x7d"),
    ("gteq?", "must be greater than or equal to %\x7bnum\x7d"),
    ("hash?", "must be a hash"),
    ("inclusion?", "must be one of: %\x7blist\x7d"),
    ("bool?", "must be boolean"),
    ("true?", "must be true"),
    ("false?", "must be false"),
    ("int?", "must be an integer"),
    ("float?", "must be a float"),
    ("decimal?", "must be a decimal"),
    ("date?", "must be a date"),
    ("date_time?", "must be a date time"),
    ("time?", "must be a time"),
    ("key?", "is missing"),
    ("lt?", "must be less than %\x7bnum\x7d"),
    ("lteq?", "must be less than or equal to %\x7bnum\x7d"),
    ("max_size?", "size cannot be greater than %\x7bnum\x7d"),
    ("min_size?", "size cannot be less than %\x7bnum\x7d"),
    ("none?", "cannot be defined"),
    ("str?", "must be a string")]

/-- The messages about sizes: texts have a length, and a progression of sizes is shown by its
ends. -/
def sizes : List (MessageKey × String) :=
  [(key "size?" none none, "size must be %\x7bnum\x7d"),
    (key "size?" none (some "range"), "size must be within %\x7bleft\x7d - %\x7bright\x7d"),
    (key "size?" (some "string") none, "length must be %\x7bnum\x7d"),
    (key "size?" (some "string") (some "range"),
      "length must be within %\x7bleft\x7d - %\x7bright\x7d")]

end English

/-- The table of the English messages. -/
def MessageTable.english : MessageTable :=
  .ofList (English.general.map (fun e => (English.key e.1 none none, e.2)) ++ English.sizes)

end Rulebook
