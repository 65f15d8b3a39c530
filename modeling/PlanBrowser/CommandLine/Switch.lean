import PlanBrowser.CommandLine.Arguments

/-!
# The switches of the command line

A **switch** is a word after a dash or two.  It has up to three spellings: a letter, a short word, and a longer
word that says the same.  Some switches are given a value.

* `Switch` — the switches;
* `Switch.letter?`, `Switch.words` — the spellings;
* `Switch.kind` — what a switch does;
* `Switch.label` — the switch in messages;
* `Switch.ofLetter?`, `Switch.ofWord?` — the switch of a spelling.
-/

namespace PlanBrowser.CommandLine

/-- What can be said on the command line. -/
inductive Switch where
  | verbose
  | color
  | noColor
  | output
  | format
  | url
  | config
  | initConfig
  | user
  | token
  | proxy
  | timeout
  | header
  | pageSize
  | shown
  | clicks
  | save
  | like
  | dislike
  | summary
  | refresh
  | saved
  | delete
  | help
  | version
  deriving Repr, DecidableEq, Inhabited

/-- What a switch does. -/
inductive Kind where
  /-- It says yes, once. -/
  | flag
  /-- It counts how often it is given. -/
  | tally
  /-- It takes one text or one number. -/
  | single (value : String)
  /-- It takes a text or a number each time it is given. -/
  | repeatable (value : String)
  /-- It asks for information and nothing else. -/
  | question
  deriving Repr, DecidableEq, Inhabited

namespace Switch

/-- All switches, in the order of the help text. -/
def all : List Switch :=
  [verbose, color, noColor, output, format, url, config, initConfig, user, token, proxy, timeout, header,
    pageSize, shown, clicks, save, like, dislike, summary, refresh, saved, delete, help, version]

/-- The letter of a switch. -/
def letter? : Switch → Option Char
  | verbose => some 'v'
  | color => some 'c'
  | output => some 'o'
  | format => some 'F'
  | url => some 'u'
  | config => some 'C'
  | user => some 'U'
  | token => some 'J'
  | proxy => some 'p'
  | timeout => some 'T'
  | header => some 'H'
  | pageSize => some 'P'
  | shown => some 'n'
  | clicks => some 'm'
  | help => some 'h'
  | version => some 'V'
  | noColor | initConfig | save | like | dislike | summary | refresh | saved | delete => none

/-- The first of the words of a switch. -/
def word : Switch → String
  | verbose => "vb"
  | color => "clr"
  | noColor => "nc"
  | output => "out"
  | format => "of"
  | url => "u"
  | config => "cfg"
  | initConfig => "ic"
  | user => "usr"
  | token => "jwt"
  | proxy => "px"
  | timeout => "to"
  | header => "hdr"
  | pageSize => "ppp"
  | shown => "init"
  | clicks => "lm"
  | save => "sv"
  | like => "lk"
  | dislike => "dl"
  | summary => "sm"
  | refresh => "rf"
  | saved => "sp"
  | delete => "del"
  | help => "help"
  | version => "version"

/-- The other word of a switch. -/
def longWord? : Switch → Option String
  | verbose => some "verbose"
  | color => some "color"
  | noColor => some "no-color"
  | output => some "output"
  | format => some "output-format"
  | url => some "url"
  | config => some "config"
  | initConfig => some "init-config"
  | user => some "user"
  | proxy => some "proxy"
  | timeout => some "timeout"
  | header => some "header"
  | pageSize => some "per-page"
  | shown => some "initial"
  | clicks => some "load-more"
  | save => some "save"
  | like => some "like"
  | dislike => some "dislike"
  | summary => some "summary"
  | refresh => some "refresh"
  | saved => some "saved"
  | delete => some "delete"
  | token | help | version => none

/-- The words of a switch. -/
def words (s : Switch) : List String :=
  s.word :: s.longWord?.toList

/-- **What a switch does.** -/
def kind : Switch → Kind
  | verbose => .tally
  | color | noColor | initConfig | refresh | saved => .flag
  | output | config => .single "FILE"
  | format => .single "FORMAT"
  | url | proxy => .single "URL"
  | user => .single "NAME"
  | token => .single "TOKEN"
  | timeout => .single "SECONDS"
  | header => .single "HEADER"
  | pageSize | shown => .single "N"
  | clicks => .single "CLICKS"
  | save | like | dislike | summary => .repeatable "INDEX"
  | delete => .repeatable "PLAN_ID"
  | help | version => .question

/-- The switch needs a value. -/
def takesValue (s : Switch) : Bool :=
  match s.kind with
  | .single _ | .repeatable _ => true
  | _ => false

/-- **The switch in messages**: its first word, and what it takes. -/
def label (s : Switch) : String :=
  "--" ++ s.word ++ match s.kind with
    | .flag | .question => ""
    | .tally => "..."
    | .single value | .repeatable value => " <" ++ value ++ ">"

/-- The switch with a letter. -/
def ofLetter? (c : Char) : Option Switch :=
  all.find? (·.letter? == some c)

/-- The switch with a word. -/
def ofWord? (w : String) : Option Switch :=
  all.find? (·.words.contains w)

/-- All words. -/
def allWords : List String :=
  all.flatMap words

end Switch

end PlanBrowser.CommandLine
