import BrowserScript.Baseline.Feature
import BrowserScript.Fault.Message
import BrowserScript.Page.Visit
import BrowserScript.Text.Lines

/-!
# Marks in the page

The elements behind a reported selector are outlined in the live page, in the colour of the most
severe status, with a badge that counts the issues. At-rules have no elements. A selector that the
page cannot query is passed over with a warning.
-/

namespace BrowserScript.Baseline

namespace Highlight

def styleId : String := "baseline-scan-style"

/-- Adds the style sheet of the badges unless it is there. -/
def styleScript : String := Text.joinLines
  ["if (document.getElementById(styleId)) \x7b return false; \x7d",
   "const style = document.createElement('style');",
   "style.id = styleId;",
   "style.textContent = `",
   "  .baseline-issue-badge \x7b",
   "    position: absolute; top: -10px; right: -10px; z-index: 10000;",
   "    min-width: 20px; height: 20px; padding: 0 6px; border-radius: 10px;",
   "    color: #fff; font: 600 12px/20px system-ui, sans-serif; text-align: center;",
   "    box-shadow: 0 2px 6px rgba(0, 0, 0, 0.3); pointer-events: none;",
   "  \x7d",
   "`;",
   "document.head.appendChild(style);",
   "return true;"]

def markScript : String := Text.joinLines
  ["const elements = document.querySelectorAll(selector);",
   "const statuses = issues.map((issue) => issue.status);",
   "let color = '#44aa44';",
   "if (statuses.includes('Not Baseline')) \x7b color = '#ff4444'; \x7d",
   "else if (statuses.includes('Low Baseline')) \x7b color = '#ff8800'; \x7d",
   "elements.forEach((el) => \x7b",
   "  el.style.outline = `3px solid $\x7bcolor\x7d`;",
   "  el.style.outlineOffset = '2px';",
   "  el.style.cursor = 'help';",
   "  if (window.getComputedStyle(el).position === 'static') \x7b el.style.position = 'relative'; \x7d",
   "  const previous = el.querySelector(':scope > .baseline-issue-badge');",
   "  if (previous) \x7b previous.remove(); \x7d",
   "  const badge = document.createElement('div');",
   "  badge.className = 'baseline-issue-badge';",
   "  badge.textContent = String(issues.length);",
   "  badge.style.background = color;",
   "  el.appendChild(badge);",
   "  el.setAttribute('data-baseline-issues', JSON.stringify(issues));",
   "  el.setAttribute('title', issues.map((i) => `$\x7bi.property\x7d ($\x7bi.status\x7d)`).join('\\n'));",
   "\x7d);",
   "return elements.length;"]

/-- Mark the elements of one entry; whether the page could do so. -/
def mark (calling : Page.Calling) (entry : ReportEntry) : Page.Visit Bool := do
  let issues := Value.list (entry.issues.map Issue.toValue)
  try
    let _ ← Page.Visit.evaluate calling markScript ["selector", "issues"]
      [.str entry.selector, issues]
    return true
  catch fault =>
    let shown ← (Value.str entry.selector).literalText
    Page.Visit.report
      [⟨.warning, "Error highlighting selector " ++ shown ++ ": " ++ fault.message⟩]
    return false

/-- Mark the elements of all entries that have some; how many entries were marked. -/
def markAll (calling : Page.Calling) (report : List ReportEntry) : Page.Visit Nat := do
  let _ ← Page.Visit.evaluate calling styleScript ["styleId"] [.str styleId]
  let marked ← (report.filter (!·.isAtRule)).mapM (mark calling)
  return marked.count true

end Highlight

end BrowserScript.Baseline
