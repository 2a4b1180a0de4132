/-!
# `WorkflowLint.Report.StyleSheet`: how pages look

The style sheet stands inside the page, so that a page needs no other files.
-/

set_option autoImplicit false

namespace WorkflowLint.Report

/-- The style sheet of pages. -/
def styleSheet : String := "
:root \x7b
    --color-critical: #b71c1c;
    --color-high: #f44336;
    --color-medium: #ff9800;
    --color-low: #2196f3;
\x7d

* \x7b
    box-sizing: border-box;
    margin: 0;
    padding: 0;
\x7d

body \x7b
    font-family: -apple-system, BlinkMacSystemFont, 'Segoe UI', Roboto, Oxygen, Ubuntu, sans-serif;
    line-height: 1.6;
    color: #333;
    max-width: 1400px;
    margin: 0 auto;
    padding: 20px;
    background: #f5f5f5;
\x7d

header \x7b
    background: linear-gradient(135deg, #fa4616 0%, #c62828 100%);
    color: white;
    padding: 30px;
    border-radius: 8px;
    margin-bottom: 20px;
\x7d

h2, h3 \x7b
    margin: 16px 0 8px;
\x7d

.workflow \x7b
    background: white;
    padding: 20px;
    border-radius: 8px;
    margin-bottom: 20px;
    box-shadow: 0 1px 3px rgba(0, 0, 0, 0.12);
\x7d

.stats-grid \x7b
    display: grid;
    grid-template-columns: repeat(auto-fit, minmax(160px, 1fr));
    gap: 12px;
    margin-bottom: 12px;
\x7d

.stat-card \x7b
    background: #fafafa;
    border-radius: 6px;
    padding: 12px;
    text-align: center;
\x7d

.stat-value \x7b
    display: block;
    font-size: 2em;
    font-weight: bold;
\x7d

.score.excellent .stat-value \x7b color: #2e7d32; \x7d
.score.good .stat-value \x7b color: #f9a825; \x7d
.score.poor .stat-value \x7b color: #c62828; \x7d

.severity-legend \x7b
    margin: 8px 0;
\x7d

.legend-item \x7b
    margin-right: 16px;
\x7d

.dot \x7b
    display: inline-block;
    width: 10px;
    height: 10px;
    border-radius: 50%;
\x7d

.dot.critical, .badge.critical \x7b background: var(--color-critical); \x7d
.dot.high, .badge.high \x7b background: var(--color-high); \x7d
.dot.medium, .badge.medium \x7b background: var(--color-medium); \x7d
.dot.low, .badge.low \x7b background: var(--color-low); \x7d

.badge \x7b
    color: white;
    padding: 2px 8px;
    border-radius: 4px;
    font-size: 0.85em;
\x7d

table \x7b
    width: 100%;
    border-collapse: collapse;
    margin-bottom: 12px;
\x7d

th, td \x7b
    text-align: left;
    padding: 8px;
    border-bottom: 1px solid #eee;
    vertical-align: top;
\x7d

ul \x7b
    margin-left: 20px;
\x7d

footer \x7b
    text-align: center;
    color: #777;
    margin-top: 20px;
\x7d
"

end WorkflowLint.Report
