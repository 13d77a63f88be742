/-
# The built-in rules

The rule table that is used when none is given: a small core of the tags of AMP pages. Tags
that are not listed are disallowed. The table is kept as it is used and also as the text that a
file with it has.
-/

import MarkupAudit.Rules.RuleSet

namespace MarkupAudit

/-- A tag that may occur anywhere and has no attributes of its own. -/
def TagDefinition.plain (name : String) : TagDefinition :=
  ⟨name, false, false, none, none, [], [], [], none, []⟩

/-- An attribute that may be missing and may have any value. -/
def AttributeDefinition.attr (name : String) : AttributeDefinition :=
  ⟨name, [], false, none, none⟩

open TagDefinition (plain)
open AttributeDefinition (attr)

/-- The built-in rule table. -/
def RuleTable.builtin : RuleTable where
  name := "amp-core"
  version := some "0.1"
  globalAttributes := ["id", "class", "lang", "dir", "title", "hidden", "tabindex", "role"]
  tags :=
    [{ plain "html" with
      mandatory := true
      unique := true
      specUrl := some
        "https://amp.dev/documentation/guides-and-tutorials/learn/spec/amphtml#html"
      attributes :=
        [{ attr "\\u26a" with alternatives := ["⚡", "amp"], mandatory := true }] },
     { plain "head" with
      mandatory := true
      unique := true
      mandatoryParent := some "html" },
     { plain "body" with
      mandatory := true
      unique := true
      mandatoryParent := some "html" },
     { plain "title" with
      mandatoryParent := some "head" },
     { plain "meta" with
      attributes :=
        [{ attr "charset" with valuePattern := some "(?i)utf-8" },
         attr "name",
         attr "content"] },
     { plain "link" with
      attributes :=
        [{ attr "rel" with mandatory := true },
         { attr "href" with mandatory := true }] },
     { plain "script" with
      specUrl := some
        "https://amp.dev/documentation/guides-and-tutorials/learn/spec/amphtml#scrpt"
      attributes :=
        [attr "async",
         { attr "custom-element" with valuePattern := some "amp-[a-z0-9-]+" },
         { attr "src" with valuePattern := some "https://cdn\\.ampproject\\.org/.*" },
         { attr "type" with valuePattern := some "application/(ld\\+)?json" }] },
     plain "div",
     plain "span",
     plain "p",
     { plain "a" with
      attributes :=
        [attr "href",
         { attr "target" with valuePattern := some "_blank|_self|_top" }] },
     { plain "acronym" with
      replacement := some "abbr" },
     plain "abbr",
     { plain "amp-img" with
      requires := ["script"]
      oneOf := ["src", "srcset"]
      specUrl := some
        "https://amp.dev/documentation/components/amp-img"
      attributes :=
        [attr "src",
         attr "srcset",
         attr "alt",
         { attr "width" with valuePattern := some "[0-9]+(px)?|auto" },
         { attr "height" with valuePattern := some "[0-9]+(px)?|fluid" },
         { attr "layout" with
           valuePattern := some
             ("nodisplay|fixed|responsive|fixed-height|fill|" ++
               "container|flex-item|intrinsic") }] },
     { plain "amp-iframe" with
      requires := ["script"]
      exclusive := ["src", "srcdoc"]
      specUrl := some
        "https://amp.dev/documentation/components/amp-iframe"
      attributes :=
        [attr "src",
         attr "srcdoc",
         attr "sandbox",
         { attr "width" with valuePattern := some "[0-9]+(px)?" },
         { attr "height" with valuePattern := some "[0-9]+(px)?" },
         { attr "frameborder" with replacement := some "style" }] }]

/-- The built-in rules. -/
def RuleSet.builtin : Except Failure RuleSet := compile RuleTable.builtin

/-- The text of the built-in rule table. -/
def RuleTable.builtinText : String :=
  r#"# Default rule table: a small core of the AMP HTML tag specification.
# Tags not listed here are disallowed. Attributes listed in global_attrs and
# any data-* attribute are allowed on every tag.

[rules]
name = "amp-core"
version = "0.1"
global_attrs = ["id", "class", "lang", "dir", "title", "hidden", "tabindex", "role"]

[[tags]]
name = "html"
mandatory = true
unique = true
spec_url = "https://amp.dev/documentation/guides-and-tutorials/learn/spec/amphtml#html"

[[tags.attrs]]
name = '\u26a'
alternative_names = ["⚡", "amp"]
mandatory = true

[[tags]]
name = "head"
mandatory = true
unique = true
mandatory_parent = "html"

[[tags]]
name = "body"
mandatory = true
unique = true
mandatory_parent = "html"

[[tags]]
name = "title"
mandatory_parent = "head"

[[tags]]
name = "meta"

[[tags.attrs]]
name = "charset"
value_regex = "(?i)utf-8"

[[tags.attrs]]
name = "name"

[[tags.attrs]]
name = "content"

[[tags]]
name = "link"

[[tags.attrs]]
name = "rel"
mandatory = true

[[tags.attrs]]
name = "href"
mandatory = true

[[tags]]
name = "script"
spec_url = "https://amp.dev/documentation/guides-and-tutorials/learn/spec/amphtml#scrpt"

[[tags.attrs]]
name = "async"

[[tags.attrs]]
name = "custom-element"
value_regex = "amp-[a-z0-9-]+"

[[tags.attrs]]
name = "src"
value_regex = "https://cdn\\.ampproject\\.org/.*"

[[tags.attrs]]
name = "type"
value_regex = "application/(ld\\+)?json"

[[tags]]
name = "div"

[[tags]]
name = "span"

[[tags]]
name = "p"

[[tags]]
name = "a"

[[tags.attrs]]
name = "href"

[[tags.attrs]]
name = "target"
value_regex = "_blank|_self|_top"

[[tags]]
name = "acronym"
deprecation = "abbr"

[[tags]]
name = "abbr"

[[tags]]
name = "amp-img"
requires = ["script"]
mandatory_oneof = ["src", "srcset"]
spec_url = "https://amp.dev/documentation/components/amp-img"

[[tags.attrs]]
name = "src"

[[tags.attrs]]
name = "srcset"

[[tags.attrs]]
name = "alt"

[[tags.attrs]]
name = "width"
value_regex = "[0-9]+(px)?|auto"

[[tags.attrs]]
name = "height"
value_regex = "[0-9]+(px)?|fluid"

[[tags.attrs]]
name = "layout"
value_regex = "nodisplay|fixed|responsive|fixed-height|fill|container|flex-item|intrinsic"

[[tags]]
name = "amp-iframe"
requires = ["script"]
mutually_exclusive = ["src", "srcdoc"]
spec_url = "https://amp.dev/documentation/components/amp-iframe"

[[tags.attrs]]
name = "src"

[[tags.attrs]]
name = "srcdoc"

[[tags.attrs]]
name = "sandbox"

[[tags.attrs]]
name = "width"
value_regex = "[0-9]+(px)?"

[[tags.attrs]]
name = "height"
value_regex = "[0-9]+(px)?"

[[tags.attrs]]
name = "frameborder"
deprecation = "style"
"#

end MarkupAudit
